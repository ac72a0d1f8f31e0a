import Reroute.Diagnostic.Basic
import Reroute.Rule.Basic

set_option autoImplicit false

/-!
# Scanning rule text

A scanner is a text with a cursor. Every step first moves the cursor past the spaces in front of
it, then reads a token, an operator or an integer, or checks that the text ends. A step that fails
leaves the cursor at the character that it cannot accept, and the next step goes on from there.

What a step reads is decided by a function on the remaining characters alone (`tokenFrom`,
`operatorFrom`, `integerFrom`), which also says how many of them it consumes.
-/

namespace Reroute

inductive ScanError where
  | endOfInput
  | spaceExpectedAfterEscape
  | forbiddenCharacter (name : Text)
  | nonPrintable (code : Nat)
  | operatorExpected
  | digitExpected
  | integerOverflow
  | unexpectedData
  deriving DecidableEq, Repr

namespace ScanError

def message : ScanError → Text
  | .endOfInput => "end of input".toList
  | .spaceExpectedAfterEscape => "space expected after \\".toList
  | .forbiddenCharacter name => name ++ " characters are not allowed".toList
  | .nonPrintable code =>
    "non-printable characters are not allowed, got ".toList ++ Text.decimal code ++
      " in the input".toList
  | .operatorExpected => "operator expected".toList
  | .digitExpected => "digit expected".toList
  | .integerOverflow => "integer value is too large".toList
  | .unexpectedData => "unexpected data".toList

/-- How many characters at the cursor are at fault: a backslash together with what follows it,
and one character otherwise. -/
def spanLen : ScanError → Nat
  | .spaceExpectedAfterEscape => 2
  | _ => 1

end ScanError

structure Scanner where
  text : Text
  cursor : Nat
  deriving DecidableEq, Repr

namespace Scanner

/-- The characters of a token up to an unescaped space. The number counts the characters consumed
before the token ends or fails. -/
def tokenFrom : Text → Nat × Except ScanError Text
  | [] => (0, .ok [])
  | '\\' :: ' ' :: t =>
    let (n, token) := tokenFrom t
    (n + 2, token.map (' ' :: ·))
  | c :: t =>
    if c = ' ' then (0, .ok [])
    else if c = '\\' then (0, .error .spaceExpectedAfterEscape)
    else if c = '\t' then (0, .error (.forbiddenCharacter ['\\', 't']))
    else if c = '\r' then (0, .error (.forbiddenCharacter ['\\', 'r']))
    else if c = '\n' then (0, .error (.forbiddenCharacter ['\\', 'n']))
    else if c < ' ' then (0, .error (.nonPrintable c.toNat))
    else
      let (n, token) := tokenFrom t
      (n + 1, token.map (c :: ·))

def operatorFrom : Text → Nat × Except ScanError Operator
  | first :: second :: _ =>
    match Operator.ofPair? first second with
    | some op => (2, .ok op)
    | none => (0, .error .operatorExpected)
  | _ => (0, .error .operatorExpected)

def integerFrom (value : Nat) : Text → Nat × Except ScanError Nat
  | [] => (0, .ok value)
  | c :: t =>
    if c = ' ' then (0, .ok value)
    else if c.isDigit then
      let next := value * 10 + Text.digitValue c
      if next ≤ maxMajor then
        let (n, total) := integerFrom next t
        (n + 1, total)
      else (0, .error .integerOverflow)
    else (0, .error .digitExpected)

def ofText (t : Text) : Scanner :=
  ⟨t, 0⟩

def position (s : Scanner) : Nat :=
  s.cursor + ((s.text.drop s.cursor).takeWhile (· == ' ')).length

def remaining (s : Scanner) : Nat :=
  s.text.length - s.position

def rest (s : Scanner) : Text :=
  s.text.drop s.position

def diagnostic (s : Scanner) (len filler : Nat) : Diagnostic :=
  ⟨s.text, s.position, len, filler⟩

/-- Reads with a function on the remaining characters, of which there must be one. -/
def step {α : Type} (read : Text → Nat × Except ScanError α) (s : Scanner) :
    Except ScanError α × Scanner :=
  match s.rest with
  | [] => (.error .endOfInput, { s with cursor := s.position })
  | t =>
    let (n, result) := read t
    (result, { s with cursor := s.position + n })

def nextToken (s : Scanner) : Except ScanError Text × Scanner :=
  s.step tokenFrom

def nextOperator (s : Scanner) : Except ScanError Operator × Scanner :=
  s.step operatorFrom

def nextInteger (s : Scanner) : Except ScanError Nat × Scanner :=
  s.step (integerFrom 0)

def atEnd (s : Scanner) : Except ScanError Unit × Scanner :=
  (if s.rest.isEmpty then .ok () else .error .unexpectedData, { s with cursor := s.position })

end Scanner

end Reroute
