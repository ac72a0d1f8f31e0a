import Reroute.Proofs.RuleParts

set_option autoImplicit false

namespace Reroute

/-- What may follow the first operand: an operator, the text of its operand, and the rule that they
make together. -/
inductive Clause (first : Text) : Operator → Text → Rule → Prop where
  | replace {target : Text} (h : Operand target) :
      Clause first .replace (Rule.escape target) (.replace first target)
  | substitute {template : Text} (h : Operand template) :
      Clause first .substitute (Rule.escape template) (.substitute first template)
  | increment : Clause first .increment [] (.bump first 1)
  | add {digits : Text} (h : Numeral digits) (hpos : 1 ≤ Text.decimalValue digits)
      (hle : Text.decimalValue digits ≤ maxMajor) :
      Clause first .add digits (.bump first (Text.decimalValue digits))

def Reads (t : Text) (rule : Rule) : Prop :=
  ∃ (i j k l : Nat) (first operand : Text) (op : Operator),
    t = spaces i ++ Rule.escape first ++ spaces (j + 1) ++ op.text ++ spaces k ++ operand ++
      spaces l ∧ Operand first ∧ Clause first op operand rule

namespace Scanner

theorem lastOperand_spaces (before : Text) (part : Part) (make : Text → Rule) (k l : Nat) {t : Text}
    (ht : Operand t) :
    (between before (spaces k ++ (Rule.escape t ++ spaces l))).lastOperand part make =
      .ok (make t) := by
  rw [lastOperand, operand_present before k part ht (boundary_spaces l)]
  exact finish_spaces _ l _

theorem lastOperand_data (before : Text) (part : Part) (make : Text → Rule) (k l : Nat)
    {t rest : Text} {c : Char} (ht : Operand t) (hspace : c ≠ ' ') :
    (between before (spaces k ++ (Rule.escape t ++ (spaces (l + 1) ++ c :: rest)))).lastOperand
        part make = .error ⟨.scan .unexpectedData,
      ⟨before ++ (spaces k ++ (Rule.escape t ++ (spaces (l + 1) ++ c :: rest))),
        before.length + (k + ((Rule.escape t).length + (l + 1))), (c :: rest).length, 0⟩⟩ := by
  rw [lastOperand, operand_present before k part ht (boundary_spaces_succ l _)]
  change (between _ _).finish _ = _
  rw [finish_data _ _ hspace]
  simp only [List.append_assoc, List.length_append, length_spaces, Nat.add_assoc]

theorem lastOperand_eq_ok_iff {before ahead : Text} {part : Part} {make : Text → Rule}
    {rule : Rule} : (between before ahead).lastOperand part make = .ok rule ↔
      ∃ k t l, ahead = spaces k ++ (Rule.escape t ++ spaces l) ∧ Operand t ∧ make t = rule := by
  constructor
  · intro h
    cases OperandAhead.of ahead with
    | absent n =>
      rw [lastOperand, operand_absent] at h
      cases h
    | faulty n ht hfault =>
      rw [lastOperand, operand_faulty before n part ht hfault] at h
      cases h
    | present n ht hrest =>
      rcases exists_spaces_of_boundary hrest with ⟨l, rfl⟩ | ⟨l, c, u, hc, rfl⟩
      · rw [lastOperand_spaces before part make n l ht] at h
        exact ⟨n, _, l, rfl, ht, Except.ok.inj h⟩
      · rw [lastOperand_data before part make n l ht hc] at h
        cases h
  · rintro ⟨k, t, l, rfl, ht, rfl⟩
    exact lastOperand_spaces before part make k l ht

theorem lastJump_spaces (before : Text) (make : Nat → Rule) (k l : Nat) {digits : Text}
    (hdigits : Numeral digits) (hpos : 1 ≤ Text.decimalValue digits)
    (hle : Text.decimalValue digits ≤ maxMajor) :
    (between before (spaces k ++ (digits ++ spaces l))).lastJump make =
      .ok (make (Text.decimalValue digits)) := by
  rw [lastJump, jump_present before k hdigits hpos hle (boundary_spaces l)]
  exact finish_spaces _ l _

theorem lastJump_data (before : Text) (make : Nat → Rule) (k l : Nat) {digits rest : Text}
    {c : Char} (hdigits : Numeral digits) (hpos : 1 ≤ Text.decimalValue digits)
    (hle : Text.decimalValue digits ≤ maxMajor) (hspace : c ≠ ' ') :
    (between before (spaces k ++ (digits ++ (spaces (l + 1) ++ c :: rest)))).lastJump make =
      .error ⟨.scan .unexpectedData,
        ⟨before ++ (spaces k ++ (digits ++ (spaces (l + 1) ++ c :: rest))),
          before.length + (k + (digits.length + (l + 1))), (c :: rest).length, 0⟩⟩ := by
  rw [lastJump, jump_present before k hdigits hpos hle (boundary_spaces_succ l _)]
  change (between _ _).finish _ = _
  rw [finish_data _ _ hspace]
  simp only [List.append_assoc, List.length_append, length_spaces, Nat.add_assoc]

theorem lastJump_eq_ok_iff {before ahead : Text} {make : Nat → Rule} {rule : Rule} :
    (between before ahead).lastJump make = .ok rule ↔
      ∃ k digits l, ahead = spaces k ++ (digits ++ spaces l) ∧ Numeral digits ∧
        1 ≤ Text.decimalValue digits ∧ Text.decimalValue digits ≤ maxMajor ∧
        make (Text.decimalValue digits) = rule := by
  constructor
  · intro h
    cases NumberAhead.of ahead with
    | absent n =>
      rw [lastJump, jump_absent] at h
      cases h
    | tooLarge n hdigits hle hc hlarge =>
      rw [lastJump, jump_tooLarge before n hdigits hle hc hlarge] at h
      cases h
    | faulty n hdigits hle hc hspace =>
      rw [lastJump, jump_faulty before n hdigits hle hc hspace] at h
      cases h
    | @present n digits rest hdigits hle hrest =>
      rcases Nat.eq_zero_or_pos (Text.decimalValue digits) with hzero | hpos
      · rw [lastJump, jump_zero before n hdigits hzero hrest] at h
        cases h
      rcases exists_spaces_of_boundary hrest with ⟨l, rfl⟩ | ⟨l, c, u, hc, rfl⟩
      · rw [lastJump_spaces before make n l hdigits hpos hle] at h
        exact ⟨n, digits, l, rfl, hdigits, hpos, hle, Except.ok.inj h⟩
      · rw [lastJump_data before make n l hdigits hpos hle hc] at h
        cases h
  · rintro ⟨k, digits, l, rfl, hdigits, hpos, hle, rfl⟩
    exact lastJump_spaces before make k l hdigits hpos hle

theorem complete_eq_ok_iff {before ahead first : Text} {op : Operator} {rule : Rule} :
    (between before ahead).complete first op = .ok rule ↔
      ∃ k operand l, ahead = spaces k ++ (operand ++ spaces l) ∧ Clause first op operand rule := by
  cases op with
  | replace =>
    refine lastOperand_eq_ok_iff.trans ⟨?_, ?_⟩
    · rintro ⟨k, t, l, rfl, ht, rfl⟩
      exact ⟨k, _, l, rfl, .replace ht⟩
    · rintro ⟨k, _, l, rfl, h⟩
      cases h with
      | replace ht => exact ⟨k, _, l, rfl, ht, rfl⟩
  | substitute =>
    refine lastOperand_eq_ok_iff.trans ⟨?_, ?_⟩
    · rintro ⟨k, t, l, rfl, ht, rfl⟩
      exact ⟨k, _, l, rfl, .substitute ht⟩
    · rintro ⟨k, _, l, rfl, h⟩
      cases h with
      | substitute ht => exact ⟨k, _, l, rfl, ht, rfl⟩
  | increment =>
    refine finish_eq_ok_iff.trans ⟨?_, ?_⟩
    · rintro ⟨k, rfl, rfl⟩
      exact ⟨k, [], 0, by simp, .increment⟩
    · rintro ⟨k, _, l, rfl, h⟩
      cases h with
      | increment => exact ⟨k + l, by simp [spaces], rfl⟩
  | add =>
    refine lastJump_eq_ok_iff.trans ⟨?_, ?_⟩
    · rintro ⟨k, digits, l, rfl, hdigits, hpos, hle, rfl⟩
      exact ⟨k, _, l, rfl, .add hdigits hpos hle⟩
    · rintro ⟨k, digits, l, rfl, h⟩
      cases h with
      | add hdigits hpos hle => exact ⟨k, digits, l, rfl, hdigits, hpos, hle, rfl⟩

end Scanner

namespace Rule

theorem parse_operand (i : Nat) {first rest : Text} (hfirst : Operand first)
    (hrest : Boundary rest) : parse (spaces i ++ (escape first ++ rest)) =
      (do
        let (op, s) ← (Scanner.between (spaces i ++ escape first) rest).operator
        s.complete first op) := by
  rw [parse, Scanner.ofText_eq_between, Scanner.operand_present [] i _ hfirst hrest]
  rfl

theorem parse_clause (i j : Nat) (op : Operator) (ahead : Text) {first : Text}
    (hfirst : Operand first) :
    parse (spaces i ++ (escape first ++ (spaces (j + 1) ++ (op.text ++ ahead)))) =
      (Scanner.between (spaces i ++ escape first ++ (spaces (j + 1) ++ op.text)) ahead).complete
        first op := by
  rw [parse_operand i hfirst (boundary_spaces_succ j _), Scanner.operator_present]
  rfl

theorem exists_succ_of_boundary {n : Nat} {t : Text} (hspace : Unspaced t) (hne : t ≠ [])
    (h : Boundary (spaces n ++ t)) : ∃ j, n = j + 1 := by
  cases n with
  | succ j => exact ⟨j, rfl⟩
  | zero =>
    cases t with
    | nil => exact absurd rfl hne
    | cons c t => exact absurd h hspace

theorem exists_operator_of_parse {t : Text} {rule : Rule} (h : parse t = .ok rule) :
    ∃ (i j : Nat) (first ahead : Text) (op : Operator), Operand first ∧
      t = spaces i ++ (escape first ++ (spaces (j + 1) ++ (op.text ++ ahead))) := by
  cases OperandAhead.of t with
  | absent n =>
    rw [parse, Scanner.ofText_eq_between, Scanner.operand_absent] at h
    cases h
  | faulty n ht hfault =>
    rw [parse, Scanner.ofText_eq_between, Scanner.operand_faulty [] n _ ht hfault] at h
    cases h
  | @present i first rest hfirst hrest =>
    rw [parse_operand i hfirst hrest] at h
    cases OperatorAhead.of rest with
    | absent n =>
      rw [Scanner.operator_absent] at h
      cases h
    | faulty n hspace hno =>
      rw [Scanner.operator_faulty _ n hspace hno] at h
      cases h
    | present n op ahead =>
      -- The operand ends at a space or at the end, and the operator is neither.
      obtain ⟨j, rfl⟩ := exists_succ_of_boundary (unspaced_operator_append op ahead)
        (by simp [Operator.text]) hrest
      exact ⟨i, j, first, ahead, op, hfirst, rfl⟩

theorem parse_eq_ok_iff {t : Text} {rule : Rule} : parse t = .ok rule ↔ Reads t rule := by
  constructor
  · intro h
    obtain ⟨i, j, first, ahead, op, hfirst, rfl⟩ := exists_operator_of_parse h
    rw [parse_clause i j op ahead hfirst, Scanner.complete_eq_ok_iff] at h
    obtain ⟨k, operand, l, rfl, hclause⟩ := h
    exact ⟨i, j, k, l, first, operand, op, by simp only [List.append_assoc], hfirst, hclause⟩
  · rintro ⟨i, j, k, l, first, operand, op, rfl, hfirst, hclause⟩
    simp only [List.append_assoc]
    rw [parse_clause i j op _ hfirst, Scanner.complete_eq_ok_iff]
    exact ⟨k, operand, l, rfl, hclause⟩

end Rule

theorem Reads.unique {t : Text} {rule rule' : Rule} (h : Reads t rule) (h' : Reads t rule') :
    rule = rule' :=
  Except.ok.inj ((Rule.parse_eq_ok_iff.2 h).symm.trans (Rule.parse_eq_ok_iff.2 h'))

theorem Reads.wellFormed {t : Text} {rule : Rule} (h : Reads t rule) : rule.WellFormed := by
  obtain ⟨i, j, k, l, first, operand, op, -, hfirst, hclause⟩ := h
  cases hclause with
  | replace ht | substitute ht => exact ⟨hfirst, ht⟩
  | increment => exact ⟨hfirst, by decide, by decide⟩
  | add _ hpos hle => exact ⟨hfirst, hpos, hle⟩

theorem Rule.WellFormed.reads_display {rule : Rule} (h : rule.WellFormed) :
    Reads rule.display rule := by
  cases rule with
  | replace source target =>
    exact ⟨0, 0, 1, 0, source, _, .replace, by simp [display, display.binary, spaces, operator],
      h.1, .replace h.2⟩
  | substitute pattern template =>
    exact ⟨0, 0, 1, 0, pattern, _, .substitute, by simp [display, display.binary, spaces, operator],
      h.1, .substitute h.2⟩
  | bump base jump =>
    obtain ⟨hbase, hpos, hle⟩ := h
    by_cases hjump : jump = 1
    · subst hjump
      exact ⟨0, 0, 0, 0, base, [], .increment, by simp [display, spaces], hbase, .increment⟩
    · refine ⟨0, 0, 1, 0, base, Text.decimal jump, .add, by simp [display, hjump, spaces],
        hbase, ?_⟩
      have hvalue := Text.decimalValue_decimal jump
      have hclause : Clause base .add (Text.decimal jump)
          (.bump base (Text.decimalValue (Text.decimal jump))) :=
        .add (Text.numeral_decimal jump) (hvalue.symm ▸ hpos) (hvalue.symm ▸ hle)
      rwa [hvalue] at hclause

theorem Rule.parse_display_iff (rule : Rule) :
    parse rule.display = .ok rule ↔ rule.WellFormed :=
  ⟨fun h => (parse_eq_ok_iff.1 h).wellFormed, fun h => parse_eq_ok_iff.2 h.reads_display⟩

/-- Displaying and reading undo each other on exactly the rules that the rule language can write.
All rules that are read are of this kind, and the display tells them apart. -/
theorem parse_display_inverse :
    (∀ rule : Rule, Rule.parse rule.display = .ok rule ↔ rule.WellFormed) ∧
      (∀ t rule, Rule.parse t = .ok rule →
        rule.WellFormed ∧ Rule.parse rule.display = .ok rule) ∧
      ∀ t t' rule rule', Rule.parse t = .ok rule → Rule.parse t' = .ok rule' →
        (rule = rule' ↔ rule.display = rule'.display) := by
  have hread : ∀ t rule, Rule.parse t = .ok rule →
      rule.WellFormed ∧ Rule.parse rule.display = .ok rule := by
    intro t rule h
    have hwell := (Rule.parse_eq_ok_iff.1 h).wellFormed
    exact ⟨hwell, (Rule.parse_display_iff rule).2 hwell⟩
  refine ⟨Rule.parse_display_iff, hread, fun t t' rule rule' h h' => ⟨congrArg _, fun heq => ?_⟩⟩
  have hdisplay := (hread t rule h).2
  rw [heq, (hread t' rule' h').2] at hdisplay
  exact (Except.ok.inj hdisplay).symm

theorem parse_display_inverse_jump :
    Rule.parse ['a', ' ', '+', '=', '0', '1'] = .ok (.bump ['a'] 1) ∧
      Rule.parse (Rule.display (.bump ['a'] 1)) = .ok (.bump ['a'] 1) ∧
      Rule.display (.bump ['a'] 1) ≠ Rule.display (.bump ['a'] 2) := by
  have hone : Rule.parse ['a', ' ', '+', '=', '0', '1'] = .ok (.bump ['a'] 1) := by rfl
  have htwo : Rule.parse ['a', ' ', '+', '=', '2'] = .ok (.bump ['a'] 2) := by rfl
  obtain ⟨-, hread, hdisplay⟩ := parse_display_inverse
  exact ⟨hone, (hread _ _ hone).2, mt (hdisplay _ _ _ _ hone htwo).2 (by decide)⟩

end Reroute
