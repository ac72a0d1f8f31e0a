import Mathlib
import Reroute.Rule.Basic

set_option autoImplicit false

namespace Reroute

def AllDigits (t : Text) : Prop :=
  ∀ c ∈ t, c.isDigit = true

def Numeral (t : Text) : Prop :=
  t ≠ [] ∧ AllDigits t

theorem AllDigits.of_cons {c : Char} {t : Text} (h : AllDigits (c :: t)) :
    c.isDigit = true ∧ AllDigits t :=
  ⟨h c List.mem_cons_self, fun d hd => h d (List.mem_cons_of_mem _ hd)⟩

theorem ne_space_of_isDigit {c : Char} (h : c.isDigit = true) : c ≠ ' ' := by
  rintro rfl
  exact absurd h (by decide)

namespace Text

def decimalValueFrom (value : Nat) (digits : Text) : Nat :=
  digits.foldl (fun value c => value * 10 + digitValue c) value

@[simp] theorem decimalValueFrom_nil (value : Nat) : decimalValueFrom value [] = value := rfl

@[simp] theorem decimalValueFrom_cons (value : Nat) (c : Char) (digits : Text) :
    decimalValueFrom value (c :: digits) =
      decimalValueFrom (value * 10 + digitValue c) digits :=
  List.foldl_cons

theorem decimalValueFrom_append (value : Nat) (digits more : Text) :
    decimalValueFrom value (digits ++ more) =
      decimalValueFrom (decimalValueFrom value digits) more :=
  List.foldl_append

theorem decimalValue_eq (digits : Text) : decimalValue digits = decimalValueFrom 0 digits := rfl

theorem le_decimalValueFrom (value : Nat) (digits : Text) :
    value ≤ decimalValueFrom value digits := by
  induction digits generalizing value with
  | nil => exact Nat.le_refl _
  | cons c digits ih =>
    have h := ih (value * 10 + digitValue c)
    rw [decimalValueFrom_cons]
    omega

theorem decimalValue_eq_ofDigitChars (digits : Text) :
    decimalValue digits = Nat.ofDigitChars 10 digits 0 := by
  rw [Nat.ofDigitChars_eq_foldl]
  simp only [decimalValue, digitValue, Nat.mul_comm]

theorem decimalValue_decimal (n : Nat) : decimalValue (decimal n) = n := by
  rw [decimalValue_eq_ofDigitChars]
  exact Nat.ofDigitChars_ten_toDigits

theorem numeral_decimal (n : Nat) : Numeral (decimal n) :=
  ⟨Nat.toDigits_ne_nil, fun _ hc => Nat.isDigit_of_mem_toDigits (by decide) (by decide) hc⟩

end Text

end Reroute
