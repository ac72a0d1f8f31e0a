import Reroute.Text

set_option autoImplicit false

namespace Reroute.Regex

inductive Reference where
  | number (index : Nat)
  | name (name : Text)
  deriving DecidableEq, Repr

inductive Piece where
  | literal (c : Char)
  | reference (target : Reference)
  deriving DecidableEq, Repr

namespace Reference

def maxNumber : Nat :=
  UInt64.size - 1

/-- A name made of digits, which a plus sign may precede, is a number. -/
def ofName (name : Text) : Reference :=
  let digits := match name with
    | '+' :: rest => rest
    | _ => name
  if !digits.isEmpty && digits.all Char.isDigit && Text.decimalValue digits ≤ maxNumber then
    .number (Text.decimalValue digits)
  else .name name

def isNameChar (c : Char) : Bool :=
  c.isAlphanum || c == '_'

def read? : Text → Option (Reference × Nat)
  | '\x7b' :: t =>
    let name := t.takeWhile (· != '\x7d')
    if name.length < t.length then some (ofName name, name.length + 2) else none
  | t =>
    let name := t.takeWhile isNameChar
    if name.isEmpty then none else some (ofName name, name.length)

end Reference

/-- The pieces of a template. The number says how many characters to pass over, because a reference
has taken them. -/
def piecesFrom : Nat → Text → List Piece
  | _, [] => []
  | skip + 1, _ :: t => piecesFrom skip t
  | 0, c :: t =>
    if c = '$' then
      if t.head? = some '$' then .literal '$' :: piecesFrom 1 t
      else
        match Reference.read? t with
        | some (target, length) => .reference target :: piecesFrom length t
        | none => .literal '$' :: piecesFrom 0 t
    else .literal c :: piecesFrom 0 t

def pieces (template : Text) : List Piece :=
  piecesFrom 0 template

end Reroute.Regex
