import Reroute.Unicode.CharSet

set_option autoImplicit false

namespace Reroute.Regex

inductive Look where
  | textStart
  | textEnd
  | lineStart
  | lineEnd
  | lineStartCrlf
  | lineEndCrlf
  /-- Conditions on words, whose characters are those of a set. -/
  | wordBoundary (word : CharSet)
  | notWordBoundary (word : CharSet)
  | wordStart (word : CharSet)
  | wordEnd (word : CharSet)
  | wordStartHalf (word : CharSet)
  | wordEndHalf (word : CharSet)
  deriving DecidableEq, Repr

namespace Look

def isWord (word : CharSet) : Option Char → Bool
  | some c => word.contains c
  | none => false

def holds (look : Look) (before after : Option Char) : Bool :=
  match look with
  | .textStart => before.isNone
  | .textEnd => after.isNone
  | .lineStart => before.isNone || before == some '\n'
  | .lineEnd => after.isNone || after == some '\n'
  | .lineStartCrlf =>
    before.isNone || before == some '\n' || (before == some '\r' && after != some '\n')
  | .lineEndCrlf =>
    after.isNone || after == some '\r' || (after == some '\n' && before != some '\r')
  | .wordBoundary word => isWord word before != isWord word after
  | .notWordBoundary word => isWord word before == isWord word after
  | .wordStart word => !isWord word before && isWord word after
  | .wordEnd word => isWord word before && !isWord word after
  | .wordStartHalf word => !isWord word before
  | .wordEndHalf word => !isWord word after

end Look

def sharedLength {α : Type} [DecidableEq α] : List α → List α → Nat
  | a :: as, b :: bs => if a = b then sharedLength as bs + 1 else 0
  | _, _ => 0

inductive Node where
  | empty
  | set (members : CharSet)
  | look (condition : Look)
  | cat (first second : Node)
  | alt (first second : Node)
  | group (index : Nat) (body : Node)
  /-- From `least` to `most` times, more often rather than less often if greedy. -/
  | rep (least : Nat) (most : Option Nat) (greedy : Bool) (body : Node)
  deriving DecidableEq, Repr, Inhabited

namespace Node

def nullable : Node → Bool
  | .empty | .look _ => true
  | .set _ => false
  | .cat a b => a.nullable && b.nullable
  | .alt a b => a.nullable || b.nullable
  | .group _ n => n.nullable
  | .rep least _ _ n => least == 0 || n.nullable

def isEmptyOnly : Node → Bool
  | .empty | .look _ => true
  | .set _ => false
  | .cat a b | .alt a b => a.isEmptyOnly && b.isEmptyOnly
  | .group _ n | .rep _ _ _ n => n.isEmptyOnly

def catAll : List Node → Node
  | [] => .empty
  | [n] => n
  | n :: next :: rest => .cat n (catAll (next :: rest))

def altAll : List Node → Node
  | [] => .empty
  | [n] => n
  | n :: next :: rest => .alt n (altAll (next :: rest))

def items : Node → List Node
  | .empty => []
  | .cat first rest => first :: rest.items
  | n => [n]

def alternatives : Node → List Node
  | .alt first rest => first :: rest.alternatives
  | n => [n]

/-- Two trees one behind the other, as one chain of items without empty ones. -/
def append : Node → Node → Node
  | .empty, b => b
  | .cat first rest, b => .cat first (rest.append b)
  | a, .empty => a
  | a, b => .cat a b

/-- A body so many times. Nothing is gained from the second time on if only the empty text
matches. -/
def repetition (least : Nat) (most : Option Nat) (greedy : Bool) (body : Node) : Node :=
  let least := if body.isEmptyOnly then min least 1 else least
  let most := if body.isEmptyOnly then some (min (most.getD 1) 1) else most
  if most = some 0 then .empty
  else if least = 1 ∧ most = some 1 then body
  else .rep least most greedy body

def set? : Node → Option CharSet
  | .set members => some members
  | _ => none

def isSingle (n : Node) : Bool :=
  n.set?.any CharSet.isSingle

/-- The items, where single characters in a row are one piece. -/
def pieces (n : Node) : List (List Node) :=
  n.items.splitBy fun a b => a.isSingle && b.isSingle

/-- One of several trees, and one set where all of them are single characters or none is. -/
def choice (nodes : List Node) : Node :=
  match nodes.mapM set? with
  | some sets =>
    if sets.all CharSet.isSingle || !sets.any CharSet.isSingle then
      .set (.ofRanges (sets.flatMap (·.ranges.toList)))
    else altAll nodes
  | none => altAll nodes

/-- One of several trees, the first preferred. Pieces that all of them begin with come first, and
what follows them is the choice. -/
def oneOf : List Node → Node
  | [n] => n
  | nodes =>
    let branches := (nodes.flatMap alternatives).map pieces
    let first := branches.headD []
    let shared :=
      if branches.all (1 < ·.length) then
        branches.foldl (fun n branch => min n (sharedLength first branch)) first.length
      else 0
    let tails := branches.map fun branch => catAll (branch.drop shared).flatten
    (catAll (first.take shared).flatten).append (choice (tails.flatMap alternatives))

end Node

end Reroute.Regex
