import Reroute.Regex.Syntax

set_option autoImplicit false

/-!
# The weight of an expression

Expressions that would take too much memory are refused. The memory is that of an automaton which
reads texts byte by byte, where a character may take up to four bytes. It is computed from the tree
alone, so that nothing large is built before it is refused.
-/

namespace Reroute.Regex

def encode (code : Nat) : List Nat :=
  if code < 0x80 then [code]
  else if code < 0x800 then [0xC0 + code / 64, 0x80 + code % 64]
  else if code < 0x10000 then [0xE0 + code / 4096, 0x80 + code / 64 % 64, 0x80 + code % 64]
  else
    [0xF0 + code / 262144, 0x80 + code / 4096 % 64, 0x80 + code / 64 % 64, 0x80 + code % 64]

/-- A range of values for each byte of an encoding. -/
abbrev ByteRanges := List (Nat × Nat)

/-- Where a range must be cut so that its encodings are all combinations of byte ranges: at the
surrogates, where the length of the encoding changes, and where a byte in front changes before those
behind it have run through all their values. The second part starts at the cut. -/
def cutOf? (low high : Nat) : Option Nat :=
  ([0xD800, 0xE000, 0x80, 0x800, 0x10000].find? fun cut => low < cut && cut ≤ high).or
    (([64, 4096, 262144].findSome? fun block =>
      if low / block = high / block then none
      else if low % block ≠ 0 then some ((low / block + 1) * block)
      else if high % block ≠ block - 1 then some (high / block * block)
      else none).filter fun cut => low < cut && cut ≤ high && 0x80 ≤ low)

/-- The encodings of a range as combinations of byte ranges. No range is cut more than a few times
one within the other, which bounds the steps. -/
def encodings : Nat → Nat → Nat → List ByteRanges
  | 0, _, _ => []
  | steps + 1, low, high =>
    match cutOf? low high with
    | some cut => encodings steps low (cut - 1) ++ encodings steps cut high
    | none =>
      if 0xD800 ≤ low && high ≤ 0xDFFF then [] else [(encode low).zip (encode high)]

def stateWeight : Nat :=
  32

def referenceWeight : Nat :=
  4

def unionWeight (branches : Nat) : Nat :=
  stateWeight + branches * referenceWeight

def rowWeight (ranges : Nat) : Nat :=
  stateWeight + ranges * (2 * referenceWeight)

/-- An expression is read from the start to the end and, to find where a match starts, from the end
to the start by an automaton that does not keep groups. -/
inductive Direction where
  | forward
  | backward
  deriving DecidableEq, Repr

/-- What is left to read at the states for reading encodings, from the last byte to the first. -/
def restsOf : Nat → List ByteRanges → List (List ByteRanges)
  | 0, _ => []
  | steps + 1, sequences =>
    if sequences.all (·.isEmpty) then []
    else
      sequences ::
        (sequences.splitBy fun a b => a.head? == b.head?).flatMap fun branch =>
          restsOf steps (branch.map List.tail)

def forwardWeight (sequences : List ByteRanges) : Nat :=
  (restsOf 5 sequences).eraseDups.foldl
    (fun total rest => total + rowWeight (rest.map List.head?).eraseDups.length) stateWeight

/-- The number of states that read a list of encodings, where neighbours share those of their common
beginning. -/
def stateCount (before : ByteRanges) : List ByteRanges → Nat
  | [] => 0
  | sequence :: rest =>
    sequence.length - sharedLength before sequence + stateCount sequence rest

def backwardWeight (sequences : List ByteRanges) : Nat :=
  (1 + stateCount [] sequences) * stateWeight + unionWeight sequences.length

def setWeight (direction : Direction) (members : CharSet) : Nat :=
  let sequences := members.ranges.toList.flatMap fun (low, high) => encodings 20 low high
  if members.ranges.isEmpty then stateWeight
  else if members.isSingle then stateWeight * sequences.flatten.length
  else if members.isAscii then stateWeight + rowWeight members.ranges.size
  else
    match direction with
    | .forward => forwardWeight sequences
    | .backward => backwardWeight sequences

def repWeight (least : Nat) (most : Option Nat) (isNullable : Bool) (body : Nat) : Nat :=
  match most with
  | some most =>
    if most = least then least * body
    else
      least * body + (most - least) * (body + unionWeight 2) + stateWeight +
        (if least = 0 && most ≠ 1 then stateWeight else 0)
  | none =>
    if least = 0 && isNullable then body + 2 * unionWeight 2 + stateWeight
    else max 1 least * body + unionWeight 2

def Node.bytes? (n : Node) : Option (List Nat) :=
  if n.items.isEmpty || !n.items.all Node.isSingle then none
  else
    some (n.items.flatMap fun item =>
      (item.set?.getD .empty).ranges.toList.flatMap fun (code, _) => encode code)

/-- The memory of a tree of words, tried in their order. Words with the same beginning share its
states, unless a word between them ends there. -/
def wordsWeight : Nat → List (List Nat) → Nat
  | 0, _ => 0
  | steps + 1, words =>
    let runs := (words.splitOn []).filter (!·.isEmpty)
    runs.foldl
      (fun total run =>
        let heads := (run.map (·.headD 0)).eraseDups
        let tails := heads.map fun byte => (run.filter (·.head? = some byte)).map List.tail
        (tails.filter fun tail => !tail.all (·.isEmpty)).foldl
          (fun total tail => total + wordsWeight steps tail)
          (total + if heads.length = 1 then stateWeight else rowWeight heads.length))
      (unionWeight (runs.length + words.count []))

/-- The memory of the automaton of a tree. A tree that goes on with alternatives already begun is
`inner` to them. -/
def Node.weight (direction : Direction) (inner : Bool) : Node → Nat
  | .empty | .look _ => stateWeight
  | .set members => setWeight direction members
  | .cat a b => a.weight direction false + b.weight direction false
  | .alt a b =>
    let rest :=
      match b with
      | .alt _ _ => b.weight direction true
      | _ => b.weight direction false + referenceWeight
    let links := a.weight direction false + referenceWeight + rest
    if inner then links
    else
      match (Node.alt a b).alternatives.mapM Node.bytes? with
      | some words =>
        let words := if direction = .forward then words else words.map List.reverse
        stateWeight + wordsWeight ((words.map List.length).foldl max 0) words
      | none => stateWeight + unionWeight 0 + links
  | .group _ n =>
    n.weight direction false + (if direction = .forward then 2 * stateWeight else 0)
  | .rep least most _ n => repWeight least most n.nullable (n.weight direction false)

def maxWeight : Nat :=
  10 * 1024 * 1024

/-- Whether both automata of a tree are small enough, with the state that accepts and the loop in
front of it that finds where a match starts. -/
def Node.isLight (tree : Node) : Bool :=
  [Direction.forward, .backward].all fun direction =>
    tree.weight direction false + 2 * stateWeight + rowWeight 1 + unionWeight 2 ≤ maxWeight

end Reroute.Regex
