import Reroute.Text

set_option autoImplicit false

/-!
# Sets of characters

A set of characters is a list of ranges of code points, in order and with gaps between them. Tables
of the Unicode standard are written as texts of numbers in base 26, whose last digit is a capital.
-/

namespace Reroute

/-- A set of characters: ranges of code points with both ends included, in order and apart. -/
structure CharSet where
  ranges : Array (Nat × Nat)
  deriving DecidableEq, Repr, Inhabited

namespace CharSet

def maxCode : Nat :=
  0x10FFFF

def empty : CharSet :=
  ⟨#[]⟩

def extend (before : List (Nat × Nat)) (range : Nat × Nat) : List (Nat × Nat) :=
  match before with
  | (low, high) :: rest =>
    if range.1 ≤ high + 1 then (low, max high range.2) :: rest else range :: before
  | [] => [range]

/-- The characters of all the ranges, which may overlap and come in any order. -/
def ofRanges (ranges : List (Nat × Nat)) : CharSet :=
  let sorted := ranges.mergeSort fun a b => a.1 ≤ b.1
  ⟨(sorted.foldl extend []).reverse.toArray⟩

def ofChar (c : Char) : CharSet :=
  ⟨#[(c.toNat, c.toNat)]⟩

def ofBounds (low high : Char) : CharSet :=
  ⟨#[(low.toNat, high.toNat)]⟩

def union (s t : CharSet) : CharSet :=
  ofRanges (s.ranges.toList ++ t.ranges.toList)

def gapsFrom (next : Nat) : List (Nat × Nat) → List (Nat × Nat)
  | [] => if next ≤ maxCode then [(next, maxCode)] else []
  | (low, high) :: rest =>
    if next < low then (next, low - 1) :: gapsFrom (high + 1) rest else gapsFrom (high + 1) rest

def complement (s : CharSet) : CharSet :=
  ⟨(gapsFrom 0 s.ranges.toList).toArray⟩

def inter (s t : CharSet) : CharSet :=
  (s.complement.union t.complement).complement

def diff (s t : CharSet) : CharSet :=
  s.inter t.complement

def symmDiff (s t : CharSet) : CharSet :=
  (s.diff t).union (t.diff s)

/-- Looks for a code point among the ranges from index `low` up to `high`, halving at each step. -/
def search (ranges : Array (Nat × Nat)) (code : Nat) : Nat → Nat → Nat → Bool
  | 0, _, _ => false
  | fuel + 1, low, high =>
    if low < high then
      let middle := (low + high) / 2
      match ranges[middle]? with
      | none => false
      | some (first, last) =>
        if code < first then search ranges code fuel low middle
        else if last < code then search ranges code fuel (middle + 1) high
        else true
    else false

def hasCode (s : CharSet) (code : Nat) : Bool :=
  search s.ranges code (s.ranges.size + 1) 0 s.ranges.size

def contains (s : CharSet) (c : Char) : Bool :=
  s.hasCode c.toNat

def isSingle (s : CharSet) : Bool :=
  match s.ranges.toList with
  | [(low, high)] => low == high
  | _ => false

def isAscii (s : CharSet) : Bool :=
  s.ranges.all fun range => range.2 < 0x80

end CharSet

namespace Unicode

/-- The numbers that a table text writes: digits in base 26, the last of each number a capital. -/
def numerals (table : String) : List Nat :=
  (table.toList.foldl digit (0, [])).2.reverse
where
  digit (state : Nat × List Nat) (c : Char) : Nat × List Nat :=
    let (value, done) := state
    if c.isUpper then (0, (value * 26 + (c.toNat - 'A'.toNat)) :: done)
    else (value * 26 + (c.toNat - 'a'.toNat), done)

/-- Ranges given by the gap before each and by its length less one. -/
def rangesFrom (next : Nat) : List Nat → List (Nat × Nat)
  | gap :: extra :: rest =>
    (next + gap, next + gap + extra) :: rangesFrom (next + gap + extra + 1) rest
  | _ => []

def setOfTable (table : String) : CharSet :=
  ⟨(rangesFrom 0 (numerals table)).toArray⟩

/-- Runs that cover the code points from `next` on, each given by its length times the number of
labels plus its label. -/
def runsFrom (labels next : Nat) : List Nat → List (Nat × Nat × Nat)
  | [] => []
  | run :: rest =>
    let length := run / labels
    (run % labels, next, next + length - 1) :: runsFrom labels (next + length) rest

def labelled (runs : List (Nat × Nat × Nat)) (wanted : Nat → Bool) : CharSet :=
  .ofRanges (runs.filterMap fun (label, low, high) => if wanted label then some (low, high) else none)

end Unicode

end Reroute
