import Reroute.Rule.Scanner

set_option autoImplicit false

namespace Reroute

inductive Part where
  | firstOperand
  | operator
  | target
  | jump
  | template
  deriving DecidableEq, Repr

namespace Part

def missingMessage : Part → Text
  | .firstOperand => "missing opening import path or regexp".toList
  | .operator => "missing operator (one of =>, ++, += or //)".toList
  | .target => "missing replacement import path".toList
  | .jump => "missing version jump value".toList
  | .template => "missing replacement regexp".toList

/-- How many filler marks stand for the missing part. -/
def filler : Part → Nat
  | .firstOperand | .target | .template => 25
  | .operator => 2
  | .jump => 4

end Part

inductive ParseCause where
  | missing (part : Part)
  | operatorExpected
  | jumpExpected
  | jumpTooLarge
  | jumpNotPositive
  | scan (error : ScanError)
  deriving DecidableEq, Repr

def ParseCause.message : ParseCause → Text
  | .missing part => part.missingMessage
  | .operatorExpected => "operator expected (one of =>, ++, += or //)".toList
  | .jumpExpected => "version jump value expected".toList
  | .jumpTooLarge => "version jump value is too large".toList
  | .jumpNotPositive => "version jump value must be positive".toList
  | .scan error => error.message

structure ParseError where
  cause : ParseCause
  diagnostic : Diagnostic
  deriving DecidableEq, Repr

def ParseError.message (e : ParseError) : Text :=
  e.cause.message

namespace Scanner

def missing (s : Scanner) (part : Part) : ParseError :=
  ⟨.missing part, s.diagnostic 1 part.filler⟩

def operandError (s : Scanner) (part : Part) : ScanError → ParseError
  | .endOfInput => s.missing part
  | e => ⟨.scan e, s.diagnostic e.spanLen 0⟩

def operand (s : Scanner) (part : Part) : Except ParseError (Text × Scanner) :=
  match s.nextToken with
  | (.ok token, s') => .ok (token, s')
  | (.error e, s') => .error (s'.operandError part e)

/-- The operator of a rule. If the next two characters are not one, both are pointed at. -/
def operator (s : Scanner) : Except ParseError (Operator × Scanner) :=
  match s.nextOperator with
  | (.ok op, s') => .ok (op, s')
  | (.error .endOfInput, s') => .error (s'.missing .operator)
  | (.error _, _) => .error ⟨.operatorExpected, s.diagnostic 2 0⟩

/-- The jump of a version rule. A value out of range is pointed at from its first digit, to the
digit that makes it too large or to its last digit. -/
def jump (s : Scanner) : Except ParseError (Nat × Scanner) :=
  match s.nextInteger with
  | (.ok value, s') =>
    if value = 0 then .error ⟨.jumpNotPositive, s.diagnostic (s'.cursor - s.position) 0⟩
    else .ok (value, s')
  | (.error .endOfInput, s') => .error (s'.missing .jump)
  | (.error .integerOverflow, s') =>
    .error ⟨.jumpTooLarge, s.diagnostic (s'.cursor - s.position + 1) 0⟩
  | (.error _, s') => .error ⟨.jumpExpected, s'.diagnostic 1 0⟩

def finish (s : Scanner) (rule : Rule) : Except ParseError Rule :=
  match s.atEnd with
  | (.ok (), _) => .ok rule
  | (.error e, s') => .error ⟨.scan e, s'.diagnostic s'.remaining 0⟩

def lastOperand (s : Scanner) (part : Part) (make : Text → Rule) : Except ParseError Rule := do
  let (t, s) ← s.operand part
  s.finish (make t)

def lastJump (s : Scanner) (make : Nat → Rule) : Except ParseError Rule := do
  let (value, s) ← s.jump
  s.finish (make value)

def complete (s : Scanner) (first : Text) : Operator → Except ParseError Rule
  | .replace => s.lastOperand .target (.replace first)
  | .increment => s.finish (.bump first 1)
  | .add => s.lastJump (.bump first)
  | .substitute => s.lastOperand .template (.substitute first)

end Scanner

/-- Reads a rule:

* `path => replacement`
* `path ++`
* `path += positive integer`
* `pattern // template` -/
def Rule.parse (t : Text) : Except ParseError Rule := do
  let (first, s) ← (Scanner.ofText t).operand .firstOperand
  let (op, s) ← s.operator
  s.complete first op

end Reroute
