import Reroute.Proofs.Scanning

set_option autoImplicit false

namespace Reroute

theorem TokenFault.ne_endOfInput {t : Text} {e : ScanError} (h : TokenFault t e) :
    e ≠ .endOfInput := by
  cases h with
  | escape _ => simp
  | @control c _ _ => exact controlError_ne_endOfInput c

namespace Scanner

theorem diagnostic_spaces (before : Text) (n len filler : Nat) :
    (between (before ++ spaces n) []).diagnostic len filler =
      ⟨before ++ spaces n, before.length + n, len, filler⟩ := by
  have h := between_diagnostic (before ++ spaces n) 0 len filler (t := []) trivial
  simpa using h

theorem diagnostic_unspaced (before : Text) (len filler : Nat) {t : Text} (h : Unspaced t) :
    (between before t).diagnostic len filler = ⟨before ++ t, before.length, len, filler⟩ := by
  simpa using between_diagnostic before 0 len filler h

theorem missing_spaces (before : Text) (n : Nat) (part : Part) :
    (between (before ++ spaces n) []).missing part =
      ⟨.missing part, ⟨before ++ spaces n, before.length + n, 1, part.filler⟩⟩ := by
  rw [missing, diagnostic_spaces]

theorem operandError_eq (s : Scanner) (part : Part) {e : ScanError} (h : e ≠ .endOfInput) :
    s.operandError part e = ⟨.scan e, s.diagnostic e.spanLen 0⟩ := by
  cases e with
  | endOfInput => exact absurd rfl h
  | _ => rfl

theorem operand_absent (before : Text) (n : Nat) (part : Part) :
    (between before (spaces n)).operand part =
      .error ⟨.missing part, ⟨before ++ spaces n, before.length + n, 1, part.filler⟩⟩ := by
  rw [operand, nextToken, step_spaces]
  simp only [operandError, missing_spaces]

theorem operand_present (before : Text) (n : Nat) (part : Part) {t rest : Text} (ht : Operand t)
    (hrest : Boundary rest) :
    (between before (spaces n ++ (Rule.escape t ++ rest))).operand part =
      .ok (t, between (before ++ (spaces n ++ Rule.escape t)) rest) := by
  rw [operand, nextToken, step_between before n _ _ (tokenFrom_escape_boundary ht.2 hrest)]
  · simp [escape_ne_nil ht.1]
  · exact unspaced_escape_append t fun h => absurd h ht.1

theorem operand_faulty (before : Text) (n : Nat) (part : Part) {t rest : Text} {e : ScanError}
    (ht : OperandText t) (hfault : TokenFault rest e) :
    (between before (spaces n ++ (Rule.escape t ++ rest))).operand part =
      .error ⟨.scan e, ⟨before ++ (spaces n ++ (Rule.escape t ++ rest)),
        (before ++ (spaces n ++ Rule.escape t)).length, e.spanLen, 0⟩⟩ := by
  rw [operand, nextToken, step_between before n _ _ (tokenFrom_escape_fault ht hfault)]
  · simp only [operandError_eq _ _ hfault.ne_endOfInput,
      diagnostic_unspaced _ _ _ hfault.unspaced, List.append_assoc]
  · simp [hfault.ne_nil]
  · exact unspaced_escape_append t fun _ => hfault.unspaced

theorem operator_absent (before : Text) (n : Nat) :
    (between before (spaces n)).operator = .error ⟨.missing .operator,
      ⟨before ++ spaces n, before.length + n, 1, Part.operator.filler⟩⟩ := by
  rw [operator, nextOperator, step_spaces]
  simp only [missing_spaces]

theorem operator_present (before : Text) (n : Nat) (op : Operator) (rest : Text) :
    (between before (spaces n ++ (op.text ++ rest))).operator =
      .ok (op, between (before ++ (spaces n ++ op.text)) rest) := by
  rw [operator, nextOperator, step_between before n _ _ (operatorFrom_text_append op rest)]
  · simp [Operator.text]
  · exact unspaced_operator_append op rest

theorem operator_faulty (before : Text) (n : Nat) {c : Char} {rest : Text} (hspace : c ≠ ' ')
    (h : NoOperator (c :: rest)) :
    (between before (spaces n ++ c :: rest)).operator = .error ⟨.operatorExpected,
      ⟨before ++ (spaces n ++ c :: rest), before.length + n, 2, 0⟩⟩ := by
  have hstep := step_between before n (t := []) (u := c :: rest) (by simp) hspace
    (operatorFrom_noOperator h)
  rw [List.nil_append] at hstep
  rw [operator, nextOperator, hstep]
  simp only [between_diagnostic before n 2 0 (t := c :: rest) hspace]

theorem jump_absent (before : Text) (n : Nat) :
    (between before (spaces n)).jump = .error ⟨.missing .jump,
      ⟨before ++ spaces n, before.length + n, 1, Part.jump.filler⟩⟩ := by
  rw [jump, nextInteger, step_spaces]
  simp only [missing_spaces]

@[simp] theorem cursor_between (before ahead : Text) :
    (between before ahead).cursor = before.length := rfl

theorem digits_unspaced {digits : Text} (h : AllDigits digits) {c : Char} {rest : Text}
    (hc : c ≠ ' ') : Unspaced (digits ++ c :: rest) := by
  cases digits with
  | nil => exact hc
  | cons d digits => exact ne_space_of_isDigit h.of_cons.1

theorem numeral_unspaced {digits : Text} (h : Numeral digits) (rest : Text) :
    Unspaced (digits ++ rest) := by
  cases digits with
  | nil => exact absurd rfl h.1
  | cons c digits => exact ne_space_of_isDigit h.2.of_cons.1

theorem nextInteger_present (before : Text) (n : Nat) {digits rest : Text}
    (hdigits : Numeral digits) (hle : Text.decimalValue digits ≤ maxMajor)
    (hrest : Boundary rest) :
    (between before (spaces n ++ (digits ++ rest))).nextInteger =
      (.ok (Text.decimalValue digits), between (before ++ (spaces n ++ digits)) rest) := by
  have hread : integerFrom 0 (digits ++ rest) =
      (digits.length, .ok (Text.decimalValue digits)) := by
    rw [integerFrom_append hdigits.2 0 rest hle, integerFrom_boundary hrest]
    rfl
  exact step_between before n (by simp [hdigits.1]) (numeral_unspaced hdigits rest) hread

theorem jump_present (before : Text) (n : Nat) {digits rest : Text} (hdigits : Numeral digits)
    (hpos : 1 ≤ Text.decimalValue digits) (hle : Text.decimalValue digits ≤ maxMajor)
    (hrest : Boundary rest) :
    (between before (spaces n ++ (digits ++ rest))).jump =
      .ok (Text.decimalValue digits, between (before ++ (spaces n ++ digits)) rest) := by
  rw [jump, nextInteger_present before n hdigits hle hrest]
  simp only [Nat.pos_iff_ne_zero.1 hpos, if_false]

theorem jump_zero (before : Text) (n : Nat) {digits rest : Text} (hdigits : Numeral digits)
    (hzero : Text.decimalValue digits = 0) (hrest : Boundary rest) :
    (between before (spaces n ++ (digits ++ rest))).jump = .error ⟨.jumpNotPositive,
      ⟨before ++ (spaces n ++ (digits ++ rest)), before.length + n, digits.length, 0⟩⟩ := by
  have hspace := numeral_unspaced hdigits rest
  rw [jump, nextInteger_present before n hdigits (by omega) hrest]
  simp only [hzero, if_true, between_diagnostic before n _ _ hspace,
    between_position before n hspace, cursor_between, List.length_append, length_spaces,
    ← Nat.add_assoc, Nat.add_sub_cancel_left]

theorem jump_tooLarge (before : Text) (n : Nat) {digits rest : Text} {c : Char}
    (hdigits : AllDigits digits) (hle : Text.decimalValue digits ≤ maxMajor)
    (hc : c.isDigit = true) (hlarge : maxMajor < Text.decimalValue (digits ++ [c])) :
    (between before (spaces n ++ (digits ++ c :: rest))).jump = .error ⟨.jumpTooLarge,
      ⟨before ++ (spaces n ++ (digits ++ c :: rest)), before.length + n,
        digits.length + 1, 0⟩⟩ := by
  have hspace : Unspaced (digits ++ c :: rest) :=
    digits_unspaced hdigits (ne_space_of_isDigit hc)
  have hread : integerFrom 0 (digits ++ c :: rest) =
      (digits.length, .error .integerOverflow) := by
    rw [Text.decimalValue_eq, Text.decimalValueFrom_append] at hlarge
    rw [integerFrom_append hdigits 0 _ hle, integerFrom_tooLarge hc hlarge]
    rfl
  rw [jump, nextInteger, step_between before n (by simp) hspace hread]
  simp only [between_diagnostic before n _ _ hspace,
    between_position before n hspace, cursor_between, List.length_append, length_spaces,
    ← Nat.add_assoc, Nat.add_sub_cancel_left]

theorem jump_faulty (before : Text) (n : Nat) {digits rest : Text} {c : Char}
    (hdigits : AllDigits digits) (hle : Text.decimalValue digits ≤ maxMajor)
    (hc : c.isDigit = false) (hspace : c ≠ ' ') :
    (between before (spaces n ++ (digits ++ c :: rest))).jump = .error ⟨.jumpExpected,
      ⟨before ++ (spaces n ++ (digits ++ c :: rest)),
        (before ++ (spaces n ++ digits)).length, 1, 0⟩⟩ := by
  have hread : integerFrom 0 (digits ++ c :: rest) =
      (digits.length, .error .digitExpected) := by
    rw [integerFrom_append hdigits 0 _ hle, integerFrom_noDigit hc hspace]
    rfl
  rw [jump, nextInteger, step_between before n (by simp) (digits_unspaced hdigits hspace) hread]
  simp only [diagnostic_unspaced _ _ _ (t := c :: rest) hspace, List.append_assoc]

theorem finish_spaces (before : Text) (n : Nat) (rule : Rule) :
    (between before (spaces n)).finish rule = .ok rule := by
  have hend := atEnd_between before n (t := []) trivial
  rw [List.append_nil] at hend
  rw [finish, hend]
  rfl

theorem finish_data (before : Text) (n : Nat) {c : Char} {rest : Text} (hspace : c ≠ ' ')
    (rule : Rule) :
    (between before (spaces n ++ c :: rest)).finish rule = .error ⟨.scan .unexpectedData,
      ⟨before ++ (spaces n ++ c :: rest), before.length + n, (c :: rest).length, 0⟩⟩ := by
  have hend : (between before (spaces n ++ c :: rest)).atEnd =
      (.error .unexpectedData, between (before ++ spaces n) (c :: rest)) :=
    atEnd_between before n hspace
  have hunspaced := between_position (before ++ spaces n) 0 (t := c :: rest) hspace
  rw [spaces_zero, List.nil_append] at hunspaced
  rw [finish, hend]
  simp only [diagnostic_unspaced _ _ _ (t := c :: rest) hspace, remaining, hunspaced]
  simp only [between, List.length_append, List.length_cons, length_spaces, Nat.add_zero,
    Except.error.injEq, ParseError.mk.injEq, Diagnostic.mk.injEq, List.append_assoc, true_and,
    and_true]
  omega

theorem finish_eq_ok_iff {before ahead : Text} {rule rule' : Rule} :
    (between before ahead).finish rule = .ok rule' ↔ ∃ n, ahead = spaces n ∧ rule = rule' := by
  obtain ⟨n, t, ht, rfl⟩ := exists_spaces ahead
  cases t with
  | nil =>
    rw [List.append_nil, finish_spaces, Except.ok.injEq]
    exact ⟨fun h => ⟨n, rfl, h⟩, fun ⟨_, _, h⟩ => h⟩
  | cons c t =>
    rw [finish_data before n ht]
    refine ⟨fun h => (nomatch h), fun ⟨m, hm, _⟩ => ?_⟩
    have hmem : c ∈ spaces m := hm ▸ by simp
    exact absurd (List.eq_of_mem_replicate hmem) ht

end Scanner

end Reroute
