import Reroute.Proofs.Numerals
import Reroute.Rule.Parser

set_option autoImplicit false

/-!
# What each step of a scanner does

A scanner that has consumed `before` and has `ahead` in front of it is `between before ahead`. The
steps only move characters from the second text to the first. For each step there is one equation
for each kind of text that it can meet, and the case distinctions `exists_spaces`,
`OperandAhead.of` and `NumberAhead.of` say that there are no other kinds.
-/

namespace Reroute

def spaces (n : Nat) : Text :=
  List.replicate n ' '

def Unspaced : Text → Prop
  | [] => True
  | c :: _ => c ≠ ' '

/-- A place where a token or a number may end: in front of a space or at the end of the text. -/
def Boundary : Text → Prop
  | [] => True
  | c :: _ => c = ' '

@[simp] theorem spaces_zero : spaces 0 = [] := rfl

theorem spaces_succ (n : Nat) : spaces (n + 1) = ' ' :: spaces n := rfl

@[simp] theorem length_spaces (n : Nat) : (spaces n).length = n :=
  List.length_replicate

theorem boundary_spaces (n : Nat) : Boundary (spaces n) := by
  cases n with
  | zero => trivial
  | succ n => rfl

theorem boundary_spaces_succ (n : Nat) (t : Text) : Boundary (spaces (n + 1) ++ t) := rfl

theorem exists_spaces (t : Text) : ∃ n u, Unspaced u ∧ t = spaces n ++ u := by
  induction t with
  | nil => exact ⟨0, [], trivial, rfl⟩
  | cons c t ih =>
    by_cases hc : c = ' '
    · obtain ⟨n, u, hu, rfl⟩ := ih
      exact ⟨n + 1, u, hu, by rw [hc, spaces_succ, List.cons_append]⟩
    · exact ⟨0, c :: t, hc, rfl⟩

theorem exists_spaces_of_boundary {t : Text} (h : Boundary t) :
    (∃ n, t = spaces n) ∨ ∃ n c u, c ≠ ' ' ∧ t = spaces (n + 1) ++ c :: u := by
  obtain ⟨n, u, hu, rfl⟩ := exists_spaces t
  cases u with
  | nil => exact .inl ⟨n, List.append_nil _⟩
  | cons c u =>
    cases n with
    | zero => exact absurd h hu
    | succ n => exact .inr ⟨n, c, u, hu, rfl⟩

namespace Scanner

/-- A scanner that has consumed `before` and has `ahead` in front of it. -/
def between (before ahead : Text) : Scanner :=
  ⟨before ++ ahead, before.length⟩

theorem ofText_eq_between (t : Text) : ofText t = between [] t := rfl

theorem takeWhile_spaces (n : Nat) {t : Text} (h : Unspaced t) :
    (spaces n ++ t).takeWhile (· == ' ') = spaces n := by
  induction n with
  | zero =>
    cases t with
    | nil => rfl
    | cons c t => simpa [spaces, Unspaced] using h
  | succ n ih => simp [spaces_succ, ih]

@[simp] theorem between_position (before : Text) (n : Nat) {t : Text} (h : Unspaced t) :
    (between before (spaces n ++ t)).position = before.length + n := by
  simp [position, between, takeWhile_spaces n h]

@[simp] theorem between_rest (before : Text) (n : Nat) {t : Text} (h : Unspaced t) :
    (between before (spaces n ++ t)).rest = t := by
  rw [rest, between_position before n h]
  simp [between, ← List.drop_drop, spaces]

theorem between_diagnostic (before : Text) (n len filler : Nat) {t : Text} (h : Unspaced t) :
    (between before (spaces n ++ t)).diagnostic len filler =
      ⟨before ++ (spaces n ++ t), before.length + n, len, filler⟩ := by
  rw [diagnostic, between_position before n h]
  rfl

theorem step_spaces {α : Type} (read : Text → Nat × Except ScanError α) (before : Text) (n : Nat) :
    (between before (spaces n)).step read =
      (.error .endOfInput, between (before ++ spaces n) []) := by
  have hrest := between_rest before n (t := []) trivial
  have hposition := between_position before n (t := []) trivial
  rw [List.append_nil] at hrest hposition
  unfold step
  rw [hrest, hposition]
  simp [between]

theorem step_between {α : Type} {read : Text → Nat × Except ScanError α}
    {result : Except ScanError α} (before : Text) (n : Nat) {t u : Text}
    (hne : t ++ u ≠ []) (hspace : Unspaced (t ++ u)) (hread : read (t ++ u) = (t.length, result)) :
    (between before (spaces n ++ (t ++ u))).step read =
      (result, between (before ++ (spaces n ++ t)) u) := by
  have hrest := between_rest before n hspace
  have hposition := between_position before n hspace
  unfold step
  rw [hrest, hposition]
  cases htu : t ++ u with
  | nil => exact absurd htu hne
  | cons c v =>
    rw [← htu]
    simp [hread, between, Nat.add_assoc]

theorem atEnd_between (before : Text) (n : Nat) {t : Text} (h : Unspaced t) :
    (between before (spaces n ++ t)).atEnd =
      (if t.isEmpty then .ok () else .error .unexpectedData, between (before ++ spaces n) t) := by
  rw [atEnd, between_rest before n h, between_position before n h]
  simp [between]

end Scanner

def OperandText (t : Text) : Prop :=
  ∀ c ∈ t, OperandChar c

theorem OperandText.append {t u : Text} (ht : OperandText t) (hu : OperandText u) :
    OperandText (t ++ u) := by
  intro c hc
  rcases List.mem_append.1 hc with hc | hc
  · exact ht c hc
  · exact hu c hc

theorem operandText_nil : OperandText [] := by
  simp [OperandText]

theorem OperandText.operand_append {t : Text} (h : OperandText t) : Operand (t ++ ['x']) := by
  have hx : OperandText ['x'] := by simp [OperandText]; decide
  exact ⟨by simp, h.append hx⟩

theorem escape_append (t u : Text) : Rule.escape (t ++ u) = Rule.escape t ++ Rule.escape u := by
  induction t with
  | nil => rfl
  | cons c t ih =>
    by_cases hc : c = ' ' <;> simp [Rule.escape, hc, ih]

theorem escape_ne_nil {t : Text} (h : t ≠ []) : Rule.escape t ≠ [] := by
  cases t with
  | nil => exact absurd rfl h
  | cons c t => by_cases hc : c = ' ' <;> simp [Rule.escape, hc]

theorem unspaced_escape_append (t : Text) {u : Text} (h : t = [] → Unspaced u) :
    Unspaced (Rule.escape t ++ u) := by
  cases t with
  | nil => exact h rfl
  | cons c t =>
    by_cases hc : c = ' '
    · simp [Rule.escape, hc, Unspaced]
    · simp [Rule.escape, hc, Unspaced]

def controlError (c : Char) : ScanError :=
  if c = '\t' then .forbiddenCharacter ['\\', 't']
  else if c = '\r' then .forbiddenCharacter ['\\', 'r']
  else if c = '\n' then .forbiddenCharacter ['\\', 'n']
  else .nonPrintable c.toNat

/-- A text whose beginning no operand can hold, and the failure to read it. -/
inductive TokenFault : Text → ScanError → Prop where
  | escape {t : Text} (h : Unspaced t) : TokenFault ('\\' :: t) .spaceExpectedAfterEscape
  | control {c : Char} {t : Text} (h : c < ' ') : TokenFault (c :: t) (controlError c)

theorem TokenFault.unspaced {t : Text} {e : ScanError} (h : TokenFault t e) : Unspaced t := by
  cases h with
  | escape _ => exact (by decide : '\\' ≠ ' ')
  | control hc =>
    rintro rfl
    exact absurd hc (by decide)

theorem TokenFault.ne_nil {t : Text} {e : ScanError} (h : TokenFault t e) : t ≠ [] := by
  cases h <;> simp

theorem controlError_spanLen (c : Char) : (controlError c).spanLen = 1 := by
  unfold controlError
  split_ifs <;> rfl

theorem controlError_ne_endOfInput (c : Char) : controlError c ≠ .endOfInput := by
  unfold controlError
  split_ifs <;> simp

/-- The characters at fault decide: whatever follows them, the failure is the same. -/
theorem TokenFault.take {t : Text} {e : ScanError} (h : TokenFault t e)
    (hlen : e.spanLen ≤ t.length) (u : Text) : TokenFault (t.take e.spanLen ++ u) e := by
  cases h with
  | @escape t ht =>
    cases t with
    | nil => exact absurd hlen (by decide)
    | cons d t => exact .escape ht
  | control hc =>
    rw [controlError_spanLen]
    exact .control hc

namespace Scanner

theorem tokenFrom_boundary {t : Text} (h : Boundary t) : tokenFrom t = (0, .ok []) := by
  cases t with
  | nil => rfl
  | cons c t =>
    obtain rfl : c = ' ' := h
    simp [tokenFrom]

theorem tokenFrom_fault {t : Text} {e : ScanError} (h : TokenFault t e) :
    tokenFrom t = (0, .error e) := by
  cases h with
  | @escape t ht =>
    cases t with
    | nil => simp [tokenFrom]
    | cons d t => rw [tokenFrom] <;> simp_all [Unspaced]
  | @control c t hc =>
    have hspace : c ≠ ' ' := by rintro rfl; exact absurd hc (by decide)
    have hslash : c ≠ '\\' := by rintro rfl; exact absurd hc (by decide)
    rw [tokenFrom]
    · simp only [hspace, hslash, hc, if_true, if_false, controlError]
      split_ifs <;> rfl
    · intro u hu
      exact absurd hu hslash

theorem tokenFrom_cons {c : Char} (hc : OperandChar c) (hspace : c ≠ ' ') (t : Text) :
    tokenFrom (c :: t) = ((tokenFrom t).1 + 1, (tokenFrom t).2.map (c :: ·)) := by
  have htab : c ≠ '\t' := by rintro rfl; exact absurd hc (by decide)
  have hreturn : c ≠ '\r' := by rintro rfl; exact absurd hc (by decide)
  have hfeed : c ≠ '\n' := by rintro rfl; exact absurd hc (by decide)
  have hcontrol : ¬ c < ' ' := not_lt.2 hc.2
  rw [tokenFrom]
  · simp only [hspace, hc.1, htab, hreturn, hfeed, hcontrol, if_false]
  · intro u hu
    exact absurd hu hc.1

theorem tokenFrom_escape_append {t : Text} (ht : OperandText t) (u : Text) :
    tokenFrom (Rule.escape t ++ u) =
      ((Rule.escape t).length + (tokenFrom u).1, (tokenFrom u).2.map (t ++ ·)) := by
  induction t with
  | nil =>
    cases h : tokenFrom u with
    | mk n result => cases result <;> simp [Rule.escape, h, Except.map]
  | cons c t ih =>
    have hc := ht c List.mem_cons_self
    have hread := ih fun d hd => ht d (List.mem_cons_of_mem _ hd)
    cases h : tokenFrom u with
    | mk n result =>
      rw [h] at hread
      by_cases hspace : c = ' '
      · subst c
        simp only [Rule.escape, if_true, List.cons_append, tokenFrom, hread]
        cases result <;> simp [Except.map] <;> omega
      · simp only [Rule.escape, hspace, if_false, List.cons_append, tokenFrom_cons hc hspace, hread]
        cases result <;> simp [Except.map] <;> omega

theorem tokenFrom_escape_boundary {t rest : Text} (ht : OperandText t) (hrest : Boundary rest) :
    tokenFrom (Rule.escape t ++ rest) = ((Rule.escape t).length, .ok t) := by
  rw [tokenFrom_escape_append ht, tokenFrom_boundary hrest]
  simp [Except.map]

theorem tokenFrom_escape_fault {t rest : Text} {e : ScanError} (ht : OperandText t)
    (hfault : TokenFault rest e) :
    tokenFrom (Rule.escape t ++ rest) = ((Rule.escape t).length, .error e) := by
  rw [tokenFrom_escape_append ht, tokenFrom_fault hfault]
  simp [Except.map]

end Scanner

/-- Every text is a written operand, perhaps an empty one, and then a place where it ends or a
character that it cannot hold. -/
theorem exists_escape (t : Text) : ∃ u v, OperandText u ∧ t = Rule.escape u ++ v ∧
    (Boundary v ∨ ∃ e, TokenFault v e) := by
  induction hn : t.length using Nat.strong_induction_on generalizing t with
  | _ n ih =>
    subst hn
    rcases t with _ | ⟨c, t⟩
    · exact ⟨[], [], operandText_nil, rfl, .inl trivial⟩
    by_cases hspace : c = ' '
    · exact ⟨[], c :: t, operandText_nil, rfl, .inl hspace⟩
    by_cases hcontrol : c < ' '
    · exact ⟨[], c :: t, operandText_nil, rfl, .inr ⟨_, .control hcontrol⟩⟩
    by_cases hslash : c = '\\'
    · subst c
      -- A backslash needs a space behind it, and then both stand for that space.
      rcases t with _ | ⟨d, t⟩
      · exact ⟨[], ['\\'], operandText_nil, rfl, .inr ⟨_, .escape trivial⟩⟩
      by_cases hd : d = ' '
      · subst d
        obtain ⟨u, v, hu, rfl, hv⟩ := ih t.length (by simp) t rfl
        refine ⟨' ' :: u, v, ?_, by simp [Rule.escape], hv⟩
        exact OperandText.append (t := [' ']) (by simp [OperandText]; decide) hu
      · exact ⟨[], '\\' :: d :: t, operandText_nil, rfl, .inr ⟨_, .escape hd⟩⟩
    · obtain ⟨u, v, hu, rfl, hv⟩ := ih t.length (by simp) t rfl
      refine ⟨c :: u, v, ?_, by simp [Rule.escape, hspace], hv⟩
      refine OperandText.append (t := [c]) ?_ hu
      simpa [OperandText, OperandChar] using ⟨hslash, not_lt.1 hcontrol⟩

theorem Operator.ofPair?_chars (op : Operator) : ofPair? op.chars.1 op.chars.2 = some op := by
  cases op <;> decide

theorem Operator.chars_of_ofPair? {first second : Char} {op : Operator}
    (h : ofPair? first second = some op) : op.chars = (first, second) := by
  have hp := List.find?_some h
  exact eq_of_beq hp

def NoOperator (t : Text) : Prop :=
  ∀ (op : Operator) (u : Text), t ≠ op.text ++ u

theorem exists_operator_of_not {t : Text} (h : ¬ NoOperator t) :
    ∃ (op : Operator) (u : Text), t = op.text ++ u := by
  simpa only [NoOperator, not_forall, not_not] using h

theorem unspaced_operator_append (op : Operator) (u : Text) : Unspaced (op.text ++ u) := by
  cases op <;> simp [Operator.text, Operator.chars, Unspaced]

theorem NoOperator.replace_rest {c d : Char} {t : Text} (h : NoOperator (c :: d :: t)) (u : Text) :
    NoOperator (c :: d :: u) := by
  rintro op v hv
  obtain ⟨rfl, rfl, rfl⟩ : c = op.chars.1 ∧ d = op.chars.2 ∧ u = v := by
    simpa [Operator.text] using hv
  exact h op t rfl

namespace Scanner

theorem operatorFrom_text_append (op : Operator) (u : Text) :
    operatorFrom (op.text ++ u) = (op.text.length, .ok op) := by
  simp [Operator.text, operatorFrom, Operator.ofPair?_chars]

theorem operatorFrom_noOperator {t : Text} (h : NoOperator t) :
    operatorFrom t = (0, .error .operatorExpected) := by
  match t with
  | [] | [_] => rfl
  | c :: d :: t =>
    cases hop : Operator.ofPair? c d with
    | none => simp [operatorFrom, hop]
    | some op =>
      have hchars := Operator.chars_of_ofPair? hop
      exact absurd (by simp [Operator.text, hchars]) (h op t)

theorem integerFrom_append {digits : Text} (h : AllDigits digits) (value : Nat) (u : Text)
    (hle : Text.decimalValueFrom value digits ≤ maxMajor) :
    integerFrom value (digits ++ u) =
      (digits.length + (integerFrom (Text.decimalValueFrom value digits) u).1,
        (integerFrom (Text.decimalValueFrom value digits) u).2) := by
  induction digits generalizing value with
  | nil => simp
  | cons c digits ih =>
    obtain ⟨hc, hdigits⟩ := h.of_cons
    have hnext : value * 10 + Text.digitValue c ≤ maxMajor :=
      (Text.le_decimalValueFrom _ digits).trans hle
    rw [List.cons_append, integerFrom, if_neg (ne_space_of_isDigit hc), if_pos hc, if_pos hnext,
      ih hdigits _ hle, Text.decimalValueFrom_cons, List.length_cons]
    simp only [Prod.mk.injEq, and_true]
    omega

theorem integerFrom_boundary {t : Text} (h : Boundary t) (value : Nat) :
    integerFrom value t = (0, .ok value) := by
  cases t with
  | nil => rfl
  | cons c t =>
    obtain rfl : c = ' ' := h
    rw [integerFrom, if_pos rfl]

theorem integerFrom_tooLarge {c : Char} (hc : c.isDigit = true) {value : Nat}
    (h : maxMajor < value * 10 + Text.digitValue c) (t : Text) :
    integerFrom value (c :: t) = (0, .error .integerOverflow) := by
  rw [integerFrom, if_neg (ne_space_of_isDigit hc), if_pos hc, if_neg (not_le.2 h)]

theorem integerFrom_noDigit {c : Char} (hc : c.isDigit = false) (hspace : c ≠ ' ') (value : Nat)
    (t : Text) : integerFrom value (c :: t) = (0, .error .digitExpected) := by
  rw [integerFrom, if_neg hspace, if_neg (by simp [hc])]

end Scanner

inductive NumberAhead : Text → Prop where
  | absent (n : Nat) : NumberAhead (spaces n)
  | present (n : Nat) {digits rest : Text} (hdigits : Numeral digits)
      (hle : Text.decimalValue digits ≤ maxMajor) (hrest : Boundary rest) :
      NumberAhead (spaces n ++ (digits ++ rest))
  | tooLarge (n : Nat) {digits rest : Text} {c : Char} (hdigits : AllDigits digits)
      (hle : Text.decimalValue digits ≤ maxMajor) (hc : c.isDigit = true)
      (hlarge : maxMajor < Text.decimalValue (digits ++ [c])) :
      NumberAhead (spaces n ++ (digits ++ c :: rest))
  | faulty (n : Nat) {digits rest : Text} {c : Char} (hdigits : AllDigits digits)
      (hle : Text.decimalValue digits ≤ maxMajor) (hc : c.isDigit = false) (hspace : c ≠ ' ') :
      NumberAhead (spaces n ++ (digits ++ c :: rest))

theorem exists_digits (t : Text) (value : Nat) (hvalue : value ≤ maxMajor) :
    ∃ digits u, AllDigits digits ∧ Text.decimalValueFrom value digits ≤ maxMajor ∧
      t = digits ++ u ∧ (Boundary u ∨ ∃ c v, u = c :: v ∧
        (c.isDigit = true ∧ maxMajor < Text.decimalValueFrom value (digits ++ [c]) ∨
          c.isDigit = false ∧ c ≠ ' ')) := by
  induction t generalizing value with
  | nil => exact ⟨[], [], by simp [AllDigits], hvalue, rfl, .inl trivial⟩
  | cons c t ih =>
    by_cases hspace : c = ' '
    · exact ⟨[], c :: t, by simp [AllDigits], hvalue, rfl, .inl hspace⟩
    cases hc : c.isDigit with
    | false =>
      exact ⟨[], c :: t, by simp [AllDigits], hvalue, rfl, .inr ⟨c, t, rfl, .inr ⟨hc, hspace⟩⟩⟩
    | true =>
      by_cases hlarge : maxMajor < value * 10 + Text.digitValue c
      · exact ⟨[], c :: t, by simp [AllDigits], hvalue, rfl, .inr ⟨c, t, rfl, .inl ⟨hc, hlarge⟩⟩⟩
      · obtain ⟨digits, u, hdigits, hle, rfl, hu⟩ := ih _ (not_lt.1 hlarge)
        refine ⟨c :: digits, u, ?_, hle, rfl, hu⟩
        simpa [AllDigits, hc] using hdigits

theorem NumberAhead.of (t : Text) : NumberAhead t := by
  obtain ⟨n, t, ht, rfl⟩ := exists_spaces t
  obtain ⟨digits, u, hdigits, hle, rfl, hu⟩ := exists_digits t 0 (Nat.zero_le _)
  rcases hu with hu | ⟨c, v, rfl, ⟨hc, hlarge⟩ | ⟨hc, hspace⟩⟩
  · cases digits with
    | cons c digits => exact .present n ⟨by simp, hdigits⟩ hle hu
    | nil =>
      cases u with
      | nil => simpa using NumberAhead.absent n
      | cons c u => exact absurd hu ht
  · exact .tooLarge n hdigits hle hc hlarge
  · exact .faulty n hdigits hle hc hspace

inductive OperandAhead : Text → Prop where
  | absent (n : Nat) : OperandAhead (spaces n)
  | present (n : Nat) {t rest : Text} (ht : Operand t) (hrest : Boundary rest) :
      OperandAhead (spaces n ++ (Rule.escape t ++ rest))
  | faulty (n : Nat) {t rest : Text} {e : ScanError} (ht : OperandText t)
      (hfault : TokenFault rest e) : OperandAhead (spaces n ++ (Rule.escape t ++ rest))

theorem OperandAhead.of (t : Text) : OperandAhead t := by
  obtain ⟨n, t, ht, rfl⟩ := exists_spaces t
  obtain ⟨u, v, hu, rfl, hv | ⟨e, he⟩⟩ := exists_escape t
  · cases u with
    | cons c u => exact .present n ⟨by simp, hu⟩ hv
    | nil =>
      cases v with
      | nil => simpa [Rule.escape] using OperandAhead.absent n
      | cons c v => exact absurd hv ht
  · exact .faulty n hu he

inductive OperatorAhead : Text → Prop where
  | absent (n : Nat) : OperatorAhead (spaces n)
  | present (n : Nat) (op : Operator) (rest : Text) : OperatorAhead (spaces n ++ (op.text ++ rest))
  | faulty (n : Nat) {c : Char} {rest : Text} (hspace : c ≠ ' ') (h : NoOperator (c :: rest)) :
      OperatorAhead (spaces n ++ c :: rest)

theorem OperatorAhead.of (t : Text) : OperatorAhead t := by
  obtain ⟨n, t, ht, rfl⟩ := exists_spaces t
  cases t with
  | nil => simpa using OperatorAhead.absent n
  | cons c t =>
    by_cases h : NoOperator (c :: t)
    · exact .faulty n ht h
    · obtain ⟨op, u, hu⟩ := exists_operator_of_not h
      exact hu ▸ .present n op u

end Reroute
