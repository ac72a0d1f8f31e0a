import Reroute.Command.Arguments
import Reroute.Diagnostic.Ansi
import Reroute.Diagnostic.Plain
import Reroute.Log.Event
import Reroute.Settings.Basic

set_option autoImplicit false

namespace Reroute.Command

inductive Notice where
  | event (e : Event)
  | report (t : Text)
  deriving DecidableEq, Repr

def Notice.render (verbosity : Nat) : Notice → Text
  | .event e => if e.isShown verbosity then e.logLine else []
  | .report t => t

structure Outcome where
  code : Nat
  output : Text
  notices : List Notice
  written : Option Text
  deriving DecidableEq, Repr

namespace Outcome

def errorOutput (verbosity : Nat) (o : Outcome) : Text :=
  o.notices.flatMap (Notice.render verbosity)

def success (output : Text) (notices : List Notice) : Outcome :=
  ⟨0, output, notices, none⟩

def failure (notices : List Notice) : Outcome :=
  ⟨1, [], notices, none⟩

end Outcome

/-- A cause with its number, if it has one. Further lines are indented like the first. -/
def causeText (number : Option Nat) (cause : Text) : Text :=
  let first := match number with
    | some n => List.replicate (5 - (Text.decimal n).length) ' ' ++ Text.decimal n ++ ": ".toList
    | none => List.replicate 4 ' '
  let indent := List.replicate first.length ' '
  match Text.split '\n' cause with
  | [] => first
  | head :: others => first ++ head ++ others.flatMap fun l => '\n' :: indent ++ l

/-- Causes one a line, each behind a line feed. They are numbered if there are several. -/
def causesText (causes : List Text) : Text :=
  match causes with
  | [cause] => '\n' :: causeText none cause
  | _ => causes.zipIdx.flatMap fun (cause, n) => '\n' :: causeText (some n) cause

def fatalText (message : Text) (causes : List Text) : Text :=
  line ("error: ".toList ++ message ++
    if causes.isEmpty then [] else "\n\nCaused by:".toList ++ causesText causes)

def fatal (message : Text) (causes : List Text) : Notice :=
  .report (fatalText message causes)

/-- Whether diagnostics are coloured. The error output is taken for a file unless a colour is asked
for. -/
def ColorChoice.usesColor (isTerminal : Bool) : ColorChoice → Bool
  | .auto => isTerminal
  | .always => true
  | .never => false

def detailsText (colored : Bool) (e : ParseError) : Text :=
  let details := if colored then e.diagnostic.ansi else e.diagnostic.plain
  (Text.lines details).flatMap fun l => line ("    ".toList ++ l)

def invalidRuleText (colored : Bool) (e : ParseError) : Text :=
  line ("error: invalid rule, ".toList ++ e.message) ++ detailsText colored e

def invalidEntryText (colored : Bool) (path : Text) (e : ParseError) : Text :=
  line ("error: invalid rule in ".toList ++ path ++ ", ".toList ++ e.message) ++
    detailsText colored e

def unusableEntryText (path message : Text) : Text :=
  line ("Configuration error in ".toList ++ path ++ ": ".toList ++ message)

end Reroute.Command
