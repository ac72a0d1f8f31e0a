import Reroute.Regex.Match
import Reroute.Regex.Parser
import Reroute.Regex.Resolve
import Reroute.Regex.Template

set_option autoImplicit false

namespace Reroute

structure Regex where
  program : Regex.Program
  names : List (Text × Nat)
  deriving Inhabited

namespace Regex

inductive CompileError where
  | invalid
  | tooLarge
  deriving DecidableEq, Repr

def CompileError.message : CompileError → Text
  | .invalid => "regex parse error: this is not a regular expression".toList
  | .tooLarge => "Compiled regex exceeds size limit of 10485760 bytes.".toList

def read? (pattern : Text) : Option (Node × Nat × List (Text × Nat)) := do
  let parsed ← Pattern.parse? pattern
  return (← parsed.expression.resolve?, parsed.groups, parsed.names)

def compile (pattern : Text) : Except CompileError Regex :=
  match read? pattern with
  | none => .error .invalid
  | some (tree, groups, names) =>
    match Program.ofNode? tree groups with
    | none => .error .tooLarge
    | some program => .ok ⟨program, names⟩

structure Match where
  start : Nat
  stop : Nat
  places : Places
  deriving Inhabited

def slice (t : Text) (start stop : Nat) : Text :=
  (t.drop start).take (stop - start)

namespace Match

def groupText (m : Match) (t : Text) (index : Nat) : Text :=
  match m.places.getD (2 * index) none, m.places.getD (2 * index + 1) none with
  | some start, some stop => slice t start stop
  | _, _ => []

def referenceText (m : Match) (names : List (Text × Nat)) (t : Text) : Reference → Text
  | .number index => m.groupText t index
  | .name name =>
    match names.find? fun entry => entry.1 == name with
    | some (_, index) => m.groupText t index
    | none => []

def expand (m : Match) (names : List (Text × Nat)) (t : Text) (template : List Piece) : Text :=
  template.flatMap fun
    | .literal c => [c]
    | .reference target => m.referenceText names t target

end Match

def find? (r : Regex) (t : Text) (position : Nat) : Option Match := do
  let before := if position = 0 then none else t[position - 1]?
  let places ← r.program.search position before (t.drop position)
  return ⟨← places.getD 0 none, ← places.getD 1 none, places⟩

/-- The next match behind one that stopped at `position`. An empty match there is not a further
one: the search then goes on one character behind. -/
def findAfter? (r : Regex) (t : Text) (position : Nat) : Option Match := do
  let m ← r.find? t position
  if m.start = m.stop ∧ m.stop = position then
    if position < t.length then r.find? t (position + 1) else none
  else return m

def matchesAfter (r : Regex) (t : Text) : Nat → Match → List Match
  | 0, _ => []
  | steps + 1, m =>
    match r.findAfter? t m.stop with
    | none => []
    | some next => next :: matchesAfter r t steps next

def matchesIn (r : Regex) (t : Text) : List Match :=
  match r.find? t 0 with
  | none => []
  | some m => m :: r.matchesAfter t (t.length + 1) m

def splice (names : List (Text × Nat)) (template : List Piece) (t : Text) :
    Nat → List Match → Text
  | position, [] => t.drop position
  | position, m :: rest =>
    slice t position m.start ++ (m.expand names t template ++ splice names template t m.stop rest)

def replaceAll? (r : Regex) (template : List Piece) (t : Text) : Option Text :=
  match r.matchesIn t with
  | [] => none
  | found => some (splice r.names template t 0 found)

end Regex

end Reroute
