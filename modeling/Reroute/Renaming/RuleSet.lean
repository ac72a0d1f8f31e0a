import Reroute.Renaming.Renamer

set_option autoImplicit false

namespace Reroute

inductive Origin where
  | commandLine
  | file (path : Text)
  deriving DecidableEq, Repr

def Origin.display : Origin → Text
  | .commandLine => "command line".toList
  | .file path => path

structure SourcedRule where
  rule : Rule
  origin : Origin
  deriving DecidableEq, Repr

structure PreparedRule where
  rule : Rule
  renamer : Renamer
  origin : Origin

def SourcedRule.prepare (r : SourcedRule) : Except PrepareError PreparedRule := do
  let renamer ← Renamer.ofRule r.rule
  return ⟨r.rule, renamer, r.origin⟩

namespace RuleSet

def prepare (rules : List SourcedRule) : Except PrepareError (List PreparedRule) :=
  rules.mapM SourcedRule.prepare

/-- A replacement, the rule that made it, and the number of rules before that one. -/
structure Hit where
  index : Nat
  rule : PreparedRule
  replacement : Text

def findFrom (index : Nat) : List PreparedRule → Text → Option Hit
  | [], _ => none
  | r :: rest, path =>
    match r.renamer.replacement? path with
    | some replacement => some ⟨index, r, replacement⟩
    | none => findFrom (index + 1) rest path

def find? (rules : List PreparedRule) (path : Text) : Option Hit :=
  findFrom 0 rules path

/-- The replacement of a path, the replacement of that, and so on: at most `limit` of them. Ends
with nothing if no rule applies before. -/
def iterate (rules : List PreparedRule) (path : Text) : Nat → List (Option Hit)
  | 0 => []
  | limit + 1 =>
    match find? rules path with
    | some hit => some hit :: iterate rules hit.replacement limit
    | none => [none]

end RuleSet

end Reroute
