import Reroute.Proofs.RuleGrammar

set_option autoImplicit false

/-!
# Where reading a rule fails

A failure stands behind the longest beginning that a rule text can have: what is in front of it can
be completed to a rule text, and once the characters that are pointed at are added, it cannot. The
only failure that points at more than it has to is a jump of zero, whose digits could go on.
-/

namespace Reroute

/-- A beginning of a text that `read` accepts. -/
def Beginning (read : Text → Except ParseError Rule) (p : Text) : Prop :=
  ∃ u rule, read (p ++ u) = .ok rule

/-- The failure `e` of `read` stands between `p` and `q`, where `before` was consumed earlier. -/
structure StandsAt (read : Text → Except ParseError Rule) (before p q : Text) (e : ParseError) :
    Prop where
  source : e.diagnostic.source = before ++ (p ++ q)
  start : e.diagnostic.start = (before ++ p).length
  shape : (q = [] ∧ 0 < e.diagnostic.filler) ∨
    (q ≠ [] ∧ Unspaced q ∧ e.diagnostic.filler = 0 ∧ 1 ≤ e.diagnostic.len)
  beginning : Beginning read p
  stop : e.diagnostic.len ≤ q.length → e.cause ≠ .jumpNotPositive →
    ¬ Beginning read (p ++ q.take e.diagnostic.len)

theorem Part.filler_pos (part : Part) : 0 < part.filler := by
  cases part <;> decide

theorem ScanError.spanLen_pos (e : ScanError) : 1 ≤ e.spanLen := by
  cases e <;> simp [spanLen]

theorem StandsAt.missing {read : Text → Except ParseError Rule} {before p : Text} {start : Nat}
    (part : Part) (hstart : start = (before ++ p).length) (h : Beginning read p) :
    StandsAt read before p [] ⟨.missing part, ⟨before ++ p, start, 1, part.filler⟩⟩ where
  source := by rw [List.append_nil]
  start := hstart
  shape := .inl ⟨rfl, part.filler_pos⟩
  beginning := h
  stop := fun hlen => absurd hlen (by simp)

theorem StandsAt.fault {read : Text → Except ParseError Rule} {before p q : Text} {e : ScanError}
    (hfault : TokenFault q e) (h : Beginning read p)
    (hread : ∀ r, TokenFault r e → ∀ rule, read (p ++ r) ≠ .ok rule) :
    StandsAt read before p q
      ⟨.scan e, ⟨before ++ (p ++ q), (before ++ p).length, e.spanLen, 0⟩⟩ where
  source := rfl
  start := rfl
  shape := .inr ⟨hfault.ne_nil, hfault.unspaced, rfl, e.spanLen_pos⟩
  beginning := h
  stop := by
    rintro hlen - ⟨u, rule, hu⟩
    rw [List.append_assoc] at hu
    exact hread _ (hfault.take hlen u) rule hu

theorem StandsAt.data {read : Text → Except ParseError Rule} {before p q : Text} {start : Nat}
    {rule : Rule} (hne : q ≠ []) (hspace : Unspaced q) (hstart : start = (before ++ p).length)
    (h : read p = .ok rule) (hread : ∀ u rule, read (p ++ (q ++ u)) ≠ .ok rule) :
    StandsAt read before p q
      ⟨.scan .unexpectedData, ⟨before ++ (p ++ q), start, q.length, 0⟩⟩ where
  source := rfl
  start := hstart
  shape := .inr ⟨hne, hspace, rfl, List.length_pos_iff.2 hne⟩
  beginning := ⟨[], rule, by rw [List.append_nil, h]⟩
  stop := by
    rintro - - ⟨u, rule, hu⟩
    rw [List.take_length, List.append_assoc] at hu
    exact hread u rule hu

/-- A reading that goes on behind `p` fails where the whole fails. -/
theorem StandsAt.append {read after : Text → Except ParseError Rule} {p q r : Text}
    {e : ParseError} (hread : ∀ u, read (p ++ u) = after u) (h : StandsAt after p q r e) :
    StandsAt read [] (p ++ q) r e where
  source := by simpa using h.source
  start := by simpa using h.start
  shape := h.shape
  beginning := by
    obtain ⟨u, rule, hu⟩ := h.beginning
    exact ⟨u, rule, by rw [List.append_assoc, hread, hu]⟩
  stop := by
    rintro hlen hcause ⟨u, rule, hu⟩
    refine h.stop hlen hcause ⟨u, rule, ?_⟩
    rw [← hu, ← hread]
    simp only [List.append_assoc]

namespace Scanner

theorem beginning_lastOperand (before : Text) (part : Part) (make : Text → Rule) (n : Nat)
    {t : Text} (ht : OperandText t) :
    Beginning (fun a => (between before a).lastOperand part make) (spaces n ++ Rule.escape t) := by
  refine ⟨Rule.escape ['x'], make (t ++ ['x']), ?_⟩
  have hread := lastOperand_spaces before part make n 0 ht.operand_append
  rw [escape_append, spaces_zero, List.append_nil] at hread
  rw [List.append_assoc]
  exact hread

theorem lastOperand_standsAt {before ahead : Text} {part : Part} {make : Text → Rule}
    {e : ParseError} (h : (between before ahead).lastOperand part make = .error e) :
    ∃ p q, ahead = p ++ q ∧
      StandsAt (fun a => (between before a).lastOperand part make) before p q e := by
  cases OperandAhead.of ahead with
  | absent n =>
    rw [lastOperand, operand_absent] at h
    cases h
    have hbegin := beginning_lastOperand before part make n operandText_nil
    rw [Rule.escape, List.append_nil] at hbegin
    exact ⟨spaces n, [], by simp, .missing part (by simp) hbegin⟩
  | @faulty n t rest e ht hfault =>
    rw [lastOperand, operand_faulty before n part ht hfault] at h
    cases h
    rw [← List.append_assoc (spaces n)]
    refine ⟨spaces n ++ Rule.escape t, rest, rfl,
      .fault hfault (beginning_lastOperand before part make n ht) fun r hr rule hread => ?_⟩
    rw [List.append_assoc, lastOperand, operand_faulty before n part ht hr] at hread
    cases hread
  | @present n t rest ht hrest =>
    rcases exists_spaces_of_boundary hrest with ⟨l, rfl⟩ | ⟨l, c, u, hc, rfl⟩
    · rw [lastOperand_spaces before part make n l ht] at h
      cases h
    · rw [lastOperand_data before part make n l ht hc] at h
      cases h
      have hsource : spaces n ++ (Rule.escape t ++ (spaces (l + 1) ++ c :: u)) =
          spaces n ++ (Rule.escape t ++ spaces (l + 1)) ++ c :: u := by simp
      rw [hsource]
      refine ⟨_, _, rfl, .data (by simp) hc (by simp)
        (lastOperand_spaces before part make n (l + 1) ht) fun v rule hread => ?_⟩
      simp only [List.append_assoc, List.cons_append] at hread
      rw [lastOperand_data before part make n l ht hc] at hread
      cases hread

theorem beginning_lastJump (before : Text) (make : Nat → Rule) (n : Nat) {digits : Text}
    (hdigits : AllDigits digits) (hle : Text.decimalValue digits ≤ maxMajor) :
    Beginning (fun a => (between before a).lastJump make) (spaces n ++ digits) := by
  -- A value of zero, or none, needs a digit more; any other is a jump as it stands.
  rcases Nat.eq_zero_or_pos (Text.decimalValue digits) with hzero | hpos
  · have hvalue : Text.decimalValue (digits ++ ['1']) = 1 := by
      rw [Text.decimalValue_eq] at hzero ⊢
      rw [Text.decimalValueFrom_append, hzero]
      rfl
    have hnumeral : Numeral (digits ++ ['1']) := by
      refine ⟨by simp, fun c hc => ?_⟩
      rcases List.mem_append.1 hc with hc | hc
      · exact hdigits c hc
      · rw [List.mem_singleton.1 hc]
        decide
    have hread := lastJump_spaces before make n 0 hnumeral (by omega) (hvalue ▸ by decide)
    rw [spaces_zero, List.append_nil] at hread
    exact ⟨['1'], _, by rw [List.append_assoc]; exact hread⟩
  · have hnumeral : Numeral digits := by
      refine ⟨?_, hdigits⟩
      rintro rfl
      exact absurd hpos (by decide)
    have hread := lastJump_spaces before make n 0 hnumeral hpos hle
    rw [spaces_zero, List.append_nil] at hread
    exact ⟨[], _, by rw [List.append_nil]; exact hread⟩

theorem lastJump_standsAt {before ahead : Text} {make : Nat → Rule} {e : ParseError}
    (h : (between before ahead).lastJump make = .error e) :
    ∃ p q, ahead = p ++ q ∧ StandsAt (fun a => (between before a).lastJump make) before p q e := by
  have hspaces : ∀ n, Beginning (fun a => (between before a).lastJump make) (spaces n) := by
    intro n
    have hnone : AllDigits [] := by simp [AllDigits]
    have hbegin := beginning_lastJump before make n hnone (by decide)
    rwa [List.append_nil] at hbegin
  cases NumberAhead.of ahead with
  | absent n =>
    rw [lastJump, jump_absent] at h
    cases h
    exact ⟨spaces n, [], by simp, .missing .jump (by simp) (hspaces n)⟩
  | @tooLarge n digits rest c hdigits hle hc hlarge =>
    rw [lastJump, jump_tooLarge before n hdigits hle hc hlarge] at h
    cases h
    have hspace : Unspaced (digits ++ c :: rest) :=
      digits_unspaced hdigits (ne_space_of_isDigit hc)
    refine ⟨spaces n, digits ++ c :: rest, rfl, ?_⟩
    refine ⟨by simp, by simp, .inr ⟨by simp, hspace, rfl, by simp⟩, hspaces n, ?_⟩
    rintro - - ⟨u, rule, hu⟩
    have htake : (digits ++ c :: rest).take (digits.length + 1) = digits ++ [c] := by
      simp [List.take_append]
    simp only [htake, List.append_assoc, List.cons_append, List.nil_append] at hu
    rw [lastJump, jump_tooLarge before n hdigits hle hc hlarge] at hu
    cases hu
  | @faulty n digits rest c hdigits hle hc hspace =>
    rw [lastJump, jump_faulty before n hdigits hle hc hspace] at h
    cases h
    refine ⟨spaces n ++ digits, c :: rest, by simp, ?_⟩
    refine ⟨by simp, rfl, .inr ⟨by simp, hspace, rfl, by simp⟩,
      beginning_lastJump before make n hdigits hle, ?_⟩
    rintro - - ⟨u, rule, hu⟩
    simp only [List.take_succ_cons, List.take_zero, List.append_assoc, List.cons_append,
      List.nil_append] at hu
    rw [lastJump, jump_faulty before n hdigits hle hc hspace] at hu
    cases hu
  | @present n digits rest hdigits hle hrest =>
    rcases Nat.eq_zero_or_pos (Text.decimalValue digits) with hzero | hpos
    · rw [lastJump, jump_zero before n hdigits hzero hrest] at h
      cases h
      refine ⟨spaces n, digits ++ rest, rfl, ?_⟩
      refine ⟨by simp, by simp, .inr ⟨by simp [hdigits.1], numeral_unspaced hdigits rest, rfl,
        List.length_pos_iff.2 hdigits.1⟩, hspaces n, fun _ hcause => absurd rfl hcause⟩
    rcases exists_spaces_of_boundary hrest with ⟨l, rfl⟩ | ⟨l, c, u, hc, rfl⟩
    · rw [lastJump_spaces before make n l hdigits hpos hle] at h
      cases h
    · rw [lastJump_data before make n l hdigits hpos hle hc] at h
      cases h
      have hsource : spaces n ++ (digits ++ (spaces (l + 1) ++ c :: u)) =
          spaces n ++ (digits ++ spaces (l + 1)) ++ c :: u := by simp
      rw [hsource]
      refine ⟨_, _, rfl, .data (by simp) hc (by simp)
        (lastJump_spaces before make n (l + 1) hdigits hpos hle) fun v rule hread => ?_⟩
      simp only [List.append_assoc, List.cons_append] at hread
      rw [lastJump_data before make n l hdigits hpos hle hc] at hread
      cases hread

theorem finish_standsAt {before ahead : Text} {rule : Rule} {e : ParseError}
    (h : (between before ahead).finish rule = .error e) :
    ∃ p q, ahead = p ++ q ∧ StandsAt (fun a => (between before a).finish rule) before p q e := by
  obtain ⟨n, u, hu, rfl⟩ := exists_spaces ahead
  cases u with
  | nil =>
    rw [List.append_nil, finish_spaces] at h
    cases h
  | cons c u =>
    rw [finish_data before n hu] at h
    cases h
    refine ⟨spaces n, c :: u, rfl, .data (by simp) hu (by simp) (finish_spaces before n rule)
      fun v rule' hread => ?_⟩
    rw [List.cons_append, finish_data before n hu] at hread
    cases hread

theorem complete_standsAt {before ahead first : Text} {op : Operator} {e : ParseError}
    (h : (between before ahead).complete first op = .error e) :
    ∃ p q, ahead = p ++ q ∧
      StandsAt (fun a => (between before a).complete first op) before p q e := by
  cases op with
  | replace => exact lastOperand_standsAt h
  | substitute => exact lastOperand_standsAt h
  | increment => exact finish_standsAt h
  | add => exact lastJump_standsAt h

end Scanner

namespace Rule

theorem beginning_parse (n : Nat) {t : Text} (ht : OperandText t) :
    Beginning parse (spaces n ++ escape t) := by
  refine ⟨escape ['x'] ++ ' ' :: Operator.text .increment, .bump (t ++ ['x']) 1, ?_⟩
  refine parse_eq_ok_iff.2 ⟨n, 0, 0, 0, t ++ ['x'], [], .increment, ?_, ht.operand_append,
    .increment⟩
  simp [escape_append, spaces]

theorem beginning_parse_spaces (i j : Nat) {first : Text} (hfirst : Operand first) :
    Beginning parse (spaces i ++ (escape first ++ spaces j)) := by
  refine ⟨spaces 1 ++ Operator.text .increment, .bump first 1, ?_⟩
  refine parse_eq_ok_iff.2 ⟨i, j, 0, 0, first, [], .increment, ?_, hfirst, .increment⟩
  simp [spaces, List.replicate_succ']

theorem parse_standsAt {t : Text} {e : ParseError} (h : parse t = .error e) :
    ∃ p q, t = p ++ q ∧ StandsAt parse [] p q e := by
  cases OperandAhead.of t with
  | absent n =>
    rw [parse, Scanner.ofText_eq_between, Scanner.operand_absent] at h
    cases h
    have hbegin := beginning_parse n operandText_nil
    rw [escape, List.append_nil] at hbegin
    exact ⟨spaces n, [], by simp, .missing .firstOperand (by simp) hbegin⟩
  | @faulty n t rest e ht hfault =>
    rw [parse, Scanner.ofText_eq_between, Scanner.operand_faulty [] n _ ht hfault] at h
    cases h
    rw [← List.append_assoc (spaces n)]
    refine ⟨spaces n ++ escape t, rest, rfl,
      .fault hfault (beginning_parse n ht) fun r hr rule hread => ?_⟩
    rw [List.append_assoc, parse, Scanner.ofText_eq_between,
      Scanner.operand_faulty [] n _ ht hr] at hread
    cases hread
  | @present i first rest hfirst hrest =>
    rw [parse_operand i hfirst hrest] at h
    cases OperatorAhead.of rest with
    | absent j =>
      rw [Scanner.operator_absent] at h
      cases h
      refine ⟨spaces i ++ (escape first ++ spaces j), [], by simp, ?_⟩
      rw [List.append_assoc]
      exact .missing .operator (by simp [Nat.add_assoc]) (beginning_parse_spaces i j hfirst)
    | @faulty n c rest hspace hno =>
      obtain ⟨j, rfl⟩ := exists_succ_of_boundary (t := c :: rest) hspace (by simp) hrest
      rw [Scanner.operator_faulty _ (j + 1) hspace hno] at h
      cases h
      refine ⟨spaces i ++ (escape first ++ spaces (j + 1)), c :: rest, by simp, ?_⟩
      refine ⟨by simp, by simp [Nat.add_assoc], .inr ⟨by simp, hspace, rfl, by simp⟩,
        beginning_parse_spaces i (j + 1) hfirst, ?_⟩
      rintro hlen - ⟨u, rule, hu⟩
      rcases rest with _ | ⟨d, rest⟩
      · exact absurd hlen (by simp)
      simp only [List.take_succ_cons, List.take_zero, List.append_assoc, List.cons_append,
        List.nil_append] at hu
      rw [parse_operand i hfirst (boundary_spaces_succ j _),
        Scanner.operator_faulty _ (j + 1) hspace (hno.replace_rest u)] at hu
      cases hu
    | present n op ahead =>
      obtain ⟨j, rfl⟩ := exists_succ_of_boundary (unspaced_operator_append op ahead)
        (by simp [Operator.text]) hrest
      rw [Scanner.operator_present] at h
      obtain ⟨p, q, rfl, hstands⟩ := Scanner.complete_standsAt h
      refine ⟨spaces i ++ escape first ++ (spaces (j + 1) ++ op.text) ++ p, q, by simp, ?_⟩
      refine hstands.append fun u => ?_
      rw [← parse_clause i j op u hfirst]
      simp only [List.append_assoc]

end Rule

/-- What stands in front of a failure can be completed to a rule text. Together with the characters
that are pointed at it cannot, unless a jump of zero is at fault or they reach beyond the end. -/
theorem parse_failure_ends_beginning {t : Text} {e : ParseError} (h : Rule.parse t = .error e) :
    (∃ u rule, Rule.parse (t.take e.diagnostic.start ++ u) = .ok rule) ∧
      (e.diagnostic.start + e.diagnostic.len ≤ t.length →
        e.message ≠ "version jump value must be positive".toList →
        ∀ u rule, Rule.parse (t.take (e.diagnostic.start + e.diagnostic.len) ++ u) ≠
          .ok rule) := by
  obtain ⟨p, q, rfl, hstands⟩ := Rule.parse_standsAt h
  have hstart : e.diagnostic.start = p.length := hstands.start
  refine ⟨?_, fun hlen hmessage u rule hu => ?_⟩
  · rw [hstart, List.take_left]
    exact hstands.beginning
  · rw [hstart, List.take_length_add_append] at hu
    rw [hstart, List.length_append] at hlen
    have hcause : e.cause ≠ .jumpNotPositive := by
      intro hcause
      exact hmessage (by rw [ParseError.message, hcause]; rfl)
    exact hstands.stop (by omega) hcause ⟨u, rule, hu⟩

theorem parse_failure_ends_beginning_no_operator :
    Rule.parse ['p', ' ', '-', '-', 'x'] =
        .error ⟨.operatorExpected, ⟨['p', ' ', '-', '-', 'x'], 2, 2, 0⟩⟩ ∧
      (∃ u rule, Rule.parse (['p', ' '] ++ u) = .ok rule) ∧
      ∀ u rule, Rule.parse (['p', ' ', '-', '-'] ++ u) ≠ .ok rule := by
  have h : Rule.parse ['p', ' ', '-', '-', 'x'] =
      .error ⟨.operatorExpected, ⟨['p', ' ', '-', '-', 'x'], 2, 2, 0⟩⟩ := by rfl
  obtain ⟨hbegin, hstop⟩ := parse_failure_ends_beginning h
  exact ⟨h, hbegin, hstop (by decide) (by decide)⟩

end Reroute
