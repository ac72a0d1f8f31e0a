import Reroute.Text

set_option autoImplicit false

namespace Reroute

inductive Operator where
  | replace
  | increment
  | add
  | substitute
  deriving DecidableEq, Repr

namespace Operator

def all : List Operator :=
  [.replace, .increment, .add, .substitute]

def chars : Operator → Char × Char
  | .replace => ('=', '>')
  | .increment => ('+', '+')
  | .add => ('+', '=')
  | .substitute => ('/', '/')

def text (op : Operator) : Text :=
  [op.chars.1, op.chars.2]

def ofPair? (first second : Char) : Option Operator :=
  all.find? fun op => op.chars == (first, second)

end Operator

inductive Rule where
  /-- `source => target`: the beginning `source` becomes `target`. -/
  | replace (source target : Text)
  /-- `base ++` or `base += jump`: the major version of `base` goes up by `jump`. -/
  | bump (base : Text) (jump : Nat)
  /-- `pattern // template`: each match of `pattern` becomes an instance of `template`. -/
  | substitute (pattern template : Text)
  deriving DecidableEq, Repr

def maxMajor : Nat :=
  UInt32.size - 1

namespace Rule

def operator : Rule → Operator
  | .replace _ _ => .replace
  | .bump _ jump => if jump = 1 then .increment else .add
  | .substitute _ _ => .substitute

/-- Writes an operand: a space inside it is preceded by a backslash. -/
def escape : Text → Text
  | [] => []
  | c :: t => if c = ' ' then '\\' :: ' ' :: escape t else c :: escape t

def display : Rule → Text
  | r@(.replace source target) => binary r.operator source target
  | r@(.substitute pattern template) => binary r.operator pattern template
  | .bump base jump =>
    if jump = 1 then escape base ++ ' ' :: Operator.text .increment
    else escape base ++ ' ' :: (Operator.text .add ++ ' ' :: Text.decimal jump)
where
  binary (op : Operator) (first second : Text) : Text :=
    escape first ++ ' ' :: (op.text ++ ' ' :: escape second)

end Rule

/-- A character that may stand in an operand: neither a backslash nor a control character. -/
def OperandChar (c : Char) : Prop :=
  c ≠ '\\' ∧ ' ' ≤ c

instance (c : Char) : Decidable (OperandChar c) :=
  inferInstanceAs (Decidable (_ ∧ _))

def Operand (t : Text) : Prop :=
  t ≠ [] ∧ ∀ c ∈ t, OperandChar c

instance (t : Text) : Decidable (Operand t) :=
  inferInstanceAs (Decidable (_ ∧ _))

def Rule.WellFormed : Rule → Prop
  | .replace source target => Operand source ∧ Operand target
  | .bump base jump => Operand base ∧ 1 ≤ jump ∧ jump ≤ maxMajor
  | .substitute pattern template => Operand pattern ∧ Operand template

end Reroute
