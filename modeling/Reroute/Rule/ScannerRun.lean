import Reroute.Rule.Scanner

set_option autoImplicit false

namespace Reroute

inductive ReadStep where
  | token
  | operator
  | integer
  | atEnd
  deriving DecidableEq, Repr

namespace Scanner

def outcome {α : Type} (p : Except ScanError α × Scanner) : Except ScanError Unit × Scanner :=
  (p.1.map fun _ => (), p.2)

def read (s : Scanner) : ReadStep → Except ScanError Unit × Scanner
  | .token => outcome s.nextToken
  | .operator => outcome s.nextOperator
  | .integer => outcome s.nextInteger
  | .atEnd => s.atEnd

end Scanner

inductive RunStep where
  | read (step : ReadStep)
  | snapshot
  /-- Goes back to a copy. The latest has age 0. -/
  | restore (age : Nat)
  deriving DecidableEq, Repr

structure RunState where
  scanner : Scanner
  copies : List Scanner
  deriving DecidableEq, Repr

namespace RunState

def start (t : Text) : RunState :=
  ⟨.ofText t, []⟩

/-- Going back to a copy that there is not changes nothing. -/
def after (σ : RunState) : RunStep → RunState
  | .read step => { σ with scanner := (σ.scanner.read step).2 }
  | .snapshot => { σ with copies := σ.scanner :: σ.copies }
  | .restore age => { σ with scanner := σ.copies.getD age σ.scanner }

def run (σ : RunState) (steps : List RunStep) : RunState :=
  steps.foldl after σ

end RunState

end Reroute
