import Reroute.Text

set_option autoImplicit false

namespace Reroute.Regex

/-- A written character. One that is written as `\x` and two digits stands for a byte. -/
structure Literal where
  char : Char
  isByte : Bool
  deriving DecidableEq, Repr

inductive LetterClass where
  | digit
  | space
  | word
  deriving DecidableEq, Repr

inductive AsciiClass where
  | alnum | alpha | ascii | blank | cntrl | digit | graph | lower | print | punct | space | upper
  | word | xdigit
  deriving DecidableEq, Repr

inductive UnicodeClass where
  | named (name : Text)
  | valued (property value : Text)
  deriving DecidableEq, Repr

inductive SetOperator where
  | intersection
  | difference
  | symmetricDifference
  deriving DecidableEq, Repr

inductive SetExpression where
  | empty
  | literal (l : Literal)
  | range (low high : Literal)
  | ascii (kind : AsciiClass) (negated : Bool)
  | letter (kind : LetterClass) (negated : Bool)
  | unicode (name : UnicodeClass) (negated : Bool)
  | union (first rest : SetExpression)
  | operation (op : SetOperator) (left right : SetExpression)
  | bracket (negated : Bool) (body : SetExpression)
  deriving DecidableEq, Repr

inductive Anchor where
  | lineStart | lineEnd | textStart | textEnd
  | wordBoundary | notWordBoundary | wordStart | wordEnd | wordStartHalf | wordEndHalf
  deriving DecidableEq, Repr

inductive Flag where
  | ignoreCase | multiLine | dotAll | swapGreed | unicode | crlf | ignoreSpace
  deriving DecidableEq, Repr

abbrev FlagSettings := List (Flag × Bool)

inductive Expression where
  | empty
  /-- Sets flags for all that follows in the same group. -/
  | directive (settings : FlagSettings)
  | literal (l : Literal)
  | dot
  | anchor (kind : Anchor)
  | letter (kind : LetterClass) (negated : Bool)
  | unicode (name : UnicodeClass) (negated : Bool)
  | bracket (negated : Bool) (body : SetExpression)
  | repetition (least : Nat) (most : Option Nat) (greedy : Bool) (body : Expression)
  | capture (index : Nat) (body : Expression)
  | group (settings : FlagSettings) (body : Expression)
  | concat (first rest : Expression)
  | alternation (first rest : Expression)
  deriving DecidableEq, Repr

namespace SetExpression

def unionAll : List SetExpression → SetExpression
  | [] => .empty
  | [s] => s
  | s :: next :: rest => .union s (unionAll (next :: rest))

/-- The nesting. A union counts once, however many members it has: only its first link does. -/
def depth (inUnion : Bool) : SetExpression → Nat
  | .union first rest =>
    max (first.depth true) (rest.depth true) + (if inUnion then 0 else 1)
  | .operation _ left right => max (left.depth false) (right.depth false) + 1
  | .bracket _ body => body.depth false + 1
  | _ => 0

end SetExpression

namespace Expression

def concatAll : List Expression → Expression
  | [] => .empty
  | [e] => e
  | e :: next :: rest => .concat e (concatAll (next :: rest))

inductive Chain where
  | none
  | concat
  | alternation
  deriving DecidableEq

/-- The nesting. A chain of concatenations or of alternatives counts once. -/
def depth (chain : Chain) : Expression → Nat
  | .concat first rest =>
    max (first.depth .concat) (rest.depth .concat) + (if chain = .concat then 0 else 1)
  | .alternation first rest =>
    max (first.depth .alternation) (rest.depth .alternation) +
      (if chain = .alternation then 0 else 1)
  | .repetition _ _ _ body | .capture _ body | .group _ body => body.depth .none + 1
  | .bracket _ body => body.depth false + 1
  | _ => 0

def maxDepth : Nat :=
  250

end Expression

end Reroute.Regex
