import Reroute.Toml.Value

set_option autoImplicit false

namespace Reroute.Toml

/-- Digits of a class in groups with single underscores between them, without the underscores. -/
def digitGroups? (isDigit : Char → Bool) (t : Text) : Option Text :=
  let groups := Text.split '_' t
  if groups.all fun g => !g.isEmpty && g.all isDigit then some groups.flatten else none

def splitSign : Text → Bool × Text
  | '-' :: t => (true, t)
  | '+' :: t => (false, t)
  | t => (false, t)

def wholeDigits? (t : Text) : Option Text := do
  let digits ← digitGroups? Char.isDigit t
  match digits with
  | '0' :: _ :: _ => none
  | _ => some digits

def digitOf (c : Char) : Nat :=
  if c.isDigit then c.toNat - '0'.toNat else c.toLower.toNat - 'a'.toNat + 10

def basedInteger? (base : Nat) (t : Text) : Option Value := do
  let digits ← digitGroups? (fun c => c.isAlphanum && digitOf c < base) t
  return .integer (digits.foldl (fun n c => n * base + digitOf c) 0 : Nat)

def integer? (t : Text) : Option Value :=
  match t with
  | '0' :: 'x' :: digits => basedInteger? 16 digits
  | '0' :: 'o' :: digits => basedInteger? 8 digits
  | '0' :: 'b' :: digits => basedInteger? 2 digits
  | _ => do
    let (negative, t) := splitSign t
    let value := Text.decimalValue (← wholeDigits? t)
    return .integer (if negative then -value else value)

/-- Whether `digits * 10 ^ exponent`, rounded, is below infinity. Exponents are compared with the
number of digits first, so that no large power is computed. -/
def isFinite (digits : Nat) (exponent : Int) : Bool :=
  let size : Int := (Text.decimal digits).length
  if digits = 0 || exponent + size < 300 then true
  else if exponent + size > 320 then false
  else
    let limit : Nat := Nat.pow 2 1024 - Nat.pow 2 970
    let power : Nat := Nat.pow 10 exponent.natAbs
    if exponent < 0 then digits < limit * power else digits * power < limit

def exponent? (t : Text) : Option Int := do
  let (negative, t) := splitSign t
  let value : Nat := Text.decimalValue (← digitGroups? Char.isDigit t)
  return if negative then -value else value

def cutWhere? (separator : Char → Bool) (t : Text) : Option (Text × Text) :=
  let before := t.takeWhile fun c => !separator c
  match t.drop before.length with
  | _ :: after => some (before, after)
  | [] => none

def float? (t : Text) : Option Value := do
  let (_, t) := splitSign t
  if t = "inf".toList ∨ t = "nan".toList then return .float true
  let exponentPart := cutWhere? (fun c => c == 'e' || c == 'E') t
  let mantissa := (exponentPart.map Prod.fst).getD t
  let exponent ← match exponentPart with
    | some (_, digits) => exponent? digits
    | none => some 0
  match cutWhere? (· == '.') mantissa with
  | some (whole, fraction) =>
    let whole ← wholeDigits? whole
    let fraction ← digitGroups? Char.isDigit fraction
    return .float (isFinite (Text.decimalValue (whole ++ fraction)) (exponent - fraction.length))
  | none =>
    if exponentPart.isNone then failure
    return .float (isFinite (Text.decimalValue (← wholeDigits? mantissa)) exponent)

def fixedDigits? (width : Nat) (t : Text) : Option (Nat × Text) :=
  let digits := t.take width
  if digits.length = width ∧ digits.all Char.isDigit then
    some (Text.decimalValue digits, t.drop width)
  else none

def isLeapYear (year : Nat) : Bool :=
  year % 4 == 0 && (year % 100 != 0 || year % 400 == 0)

def daysInMonth (year month : Nat) : Nat :=
  if month = 2 then (if isLeapYear year then 29 else 28)
  else if month = 4 ∨ month = 6 ∨ month = 9 ∨ month = 11 then 30
  else 31

def afterDate? (t : Text) : Option Text := do
  let (year, t) ← fixedDigits? 4 t
  let (month, t) ← fixedDigits? 2 (← Text.dropPrefix? ['-'] t)
  let (day, t) ← fixedDigits? 2 (← Text.dropPrefix? ['-'] t)
  if 1 ≤ month ∧ month ≤ 12 ∧ 1 ≤ day ∧ day ≤ daysInMonth year month then some t else none

/-- What follows the seconds of a time, which may be left out, as may their fraction. -/
def afterSeconds? : Text → Option Text
  | ':' :: t => do
    let (second, t) ← fixedDigits? 2 t
    if second > 60 then failure
    match t with
    | '.' :: t =>
      let fraction := t.takeWhile Char.isDigit
      if fraction.isEmpty then none else some (t.drop fraction.length)
    | t => some t
  | t => some t

def afterTime? (t : Text) : Option Text := do
  let (hour, t) ← fixedDigits? 2 t
  let (minute, t) ← fixedDigits? 2 (← Text.dropPrefix? [':'] t)
  if hour > 23 ∨ minute > 59 then failure
  afterSeconds? t

def afterOffset? : Text → Option Text
  | 'Z' :: t | 'z' :: t => some t
  | '+' :: t | '-' :: t => do
    let (hour, t) ← fixedDigits? 2 t
    let (minute, t) ← fixedDigits? 2 (← Text.dropPrefix? [':'] t)
    if hour > 23 ∨ minute > 59 then none else some t
  | _ => none

def isDateTime (t : Text) : Bool :=
  match afterDate? t with
  | some [] => true
  | some (separator :: rest) =>
    if separator = 'T' ∨ separator = 't' ∨ separator = ' ' then
      match afterTime? rest with
      | some [] => true
      | some rest => afterOffset? rest == some []
      | none => false
    else false
  | none => afterTime? t == some []

def scalar? (t : Text) : Option Value :=
  if t = "true".toList then some (.boolean true)
  else if t = "false".toList then some (.boolean false)
  else if isDateTime t then some .dateTime
  else (integer? t).or (float? t)

end Reroute.Toml
