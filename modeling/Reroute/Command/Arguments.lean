import Reroute.Text

set_option autoImplicit false

namespace Reroute.Command

inductive ColorChoice where
  | auto
  | always
  | never
  deriving DecidableEq, Repr

def ColorChoice.ofName? (name : Text) : Option ColorChoice :=
  if name = "auto".toList then some .auto
  else if name = "always".toList then some .always
  else if name = "never".toList then some .never
  else none

inductive Task where
  | rename (rules paths : List Text)
  | starter (overwrite : Bool)
  | check (rule : Text)
  | showSettings
  | validateSettings
  deriving DecidableEq, Repr

structure Invocation where
  task : Task
  color : ColorChoice
  verbosity : Nat
  deriving DecidableEq, Repr

inductive Stop where
  | misuse
  | version
  | help
  deriving DecidableEq, Repr

namespace Arguments

inductive Level where
  | top
  | check
  | settings
  | settingsTask
  deriving DecidableEq, Repr

def Level.subcommands : Level → List (Text × Level)
  | .top => [("check".toList, .check), ("config".toList, .settings)]
  | .settings => [("show".toList, .settingsTask), ("validate".toList, .settingsTask)]
  | .check | .settingsTask => []

/-- The subcommand that tells how the program is called. It belongs to all levels that have other
subcommands. -/
def helpName : Text :=
  "help".toList

def Level.capacity : Level → Option Nat
  | .top => none
  | .check => some 1
  | .settings | .settingsTask => some 0

inductive ValueOption where
  | rule
  | color
  deriving DecidableEq, Repr

inductive Awaiting where
  | anything
  | value (of : ValueOption)
  | operand
  deriving DecidableEq, Repr

structure Given where
  rules : List Text
  starter : Bool
  force : Bool
  color : Option ColorChoice
  verbosity : Nat
  operands : List Text
  deriving DecidableEq, Repr

def Given.nothing : Given :=
  ⟨[], false, false, none, 0, []⟩

inductive Switch where
  | starter
  | force
  | verbose
  | version
  | help
  deriving DecidableEq, Repr

inductive OptionName where
  | switch (s : Switch)
  | valued (o : ValueOption)
  deriving DecidableEq, Repr

def longOption? (level : Level) (name : Text) : Option OptionName :=
  if name = "color".toList then some (.valued .color)
  else if name = "verbose".toList then some (.switch .verbose)
  else if name = "help".toList then some (.switch .help)
  else if level ≠ .top then none
  else if name = "rule".toList then some (.valued .rule)
  else if name = "init".toList then some (.switch .starter)
  else if name = "force".toList then some (.switch .force)
  else if name = "version".toList then some (.switch .version)
  else none

def shortOption? (level : Level) (letter : Char) : Option OptionName :=
  if letter = 'v' then some (.switch .verbose)
  else if letter = 'h' then some (.switch .help)
  else if level ≠ .top then none
  else if letter = 'r' then some (.valued .rule)
  else if letter = 'V' then some (.switch .version)
  else none

namespace Given

def takeSwitch (g : Given) : Switch → Except Stop Given
  | .starter => if g.starter then .error .misuse else .ok { g with starter := true }
  | .force => if g.force then .error .misuse else .ok { g with force := true }
  | .verbose => .ok { g with verbosity := g.verbosity + 1 }
  | .version => .error .version
  | .help => .error .help

def takeValue (g : Given) (option : ValueOption) (value : Text) : Except Stop Given :=
  match option with
  | .rule => .ok { g with rules := g.rules ++ [value] }
  | .color =>
    match g.color, ColorChoice.ofName? value with
    | none, some choice => .ok { g with color := some choice }
    | _, _ => .error .misuse

def takeOperand (level : Level) (g : Given) (operand : Text) : Except Stop Given :=
  if level.capacity.all (g.operands.length < ·) then
    .ok { g with operands := g.operands ++ [operand] }
  else .error .misuse

/-- Takes the letters behind one hyphen. An option with a value takes the rest of them, where an
equals sign may come first. -/
def takeLetters (level : Level) (g : Given) : Text → Except Stop (Given × Awaiting)
  | [] => .ok (g, .anything)
  | letter :: rest =>
    match shortOption? level letter with
    | none => .error .misuse
    | some (.switch s) => do takeLetters level (← g.takeSwitch s) rest
    | some (.valued option) =>
      match rest with
      | [] => .ok (g, .value option)
      | '=' :: value => do return (← g.takeValue option value, .anything)
      | value => do return (← g.takeValue option value, .anything)

def takeLong (level : Level) (g : Given) (t : Text) : Except Stop (Given × Awaiting) :=
  let name := t.takeWhile (· != '=')
  match longOption? level name, t.drop name.length with
  | some (.switch s), [] => do return (← g.takeSwitch s, .anything)
  | some (.valued option), [] => .ok (g, .value option)
  | some (.valued option), _ :: value => do return (← g.takeValue option value, .anything)
  | _, _ => .error .misuse

end Given

inductive Form where
  | separator
  | long (t : Text)
  | short (letters : Text)
  | plain
  deriving DecidableEq, Repr

def formOf : Text → Form
  | ['-', '-'] => .separator
  | '-' :: '-' :: t => .long t
  | ['-'] => .plain
  | '-' :: letters => .short letters
  | _ => .plain

structure Outline where
  given : Given
  subcommand : Option (Text × Level × List Text)

def takeOperands (level : Level) (g : Given) (args : List Text) : Except Stop Given :=
  args.foldlM (Given.takeOperand level) g

def outline (level : Level) (awaiting : Awaiting) (g : Given) : List Text → Except Stop Outline
  | [] =>
    match awaiting with
    | .value _ => .error .misuse
    | _ => .ok ⟨g, none⟩
  | arg :: rest =>
    match awaiting, formOf arg with
    | .value option, .plain => do outline level .anything (← g.takeValue option arg) rest
    | .value _, _ => .error .misuse
    | _, .separator => do return ⟨← takeOperands level g rest, none⟩
    | _, .long t => do
      let (g, awaiting) ← g.takeLong level t
      outline level awaiting g rest
    | _, .short letters => do
      let (g, awaiting) ← g.takeLetters level letters
      outline level awaiting g rest
    | .operand, .plain => do outline level .operand (← Given.takeOperand level g arg) rest
    | .anything, .plain =>
      match level.subcommands.find? (·.1 == arg) with
      | some (name, below) => .ok ⟨g, some (name, below, rest)⟩
      | none => do
        if !level.subcommands.isEmpty && arg = helpName then throw .help
        let awaiting := if level.capacity.isNone then Awaiting.operand else .anything
        outline level awaiting (← Given.takeOperand level g arg) rest

/-- The level that counts: the last that gives an option. -/
def deepest {α : Type} (isGiven : α → Bool) (default : α) (levels : List α) : α :=
  (levels.reverse.find? isGiven).getD default

def invocation (task : Task) (levels : List Given) : Invocation :=
  ⟨task, (deepest Option.isSome none (levels.map Given.color)).getD .auto,
    deepest (· != 0) 0 (levels.map Given.verbosity)⟩

/-- Checks the options of the top level, and lets the starter file come before any other task. -/
def finish (top : Given) (task : Task) (levels : List Given) : Except Stop Invocation :=
  if top.force && !top.starter then .error .misuse
  else if top.starter then .ok (invocation (.starter top.force) levels)
  else .ok (invocation task levels)

def parse (args : List Text) : Except Stop Invocation := do
  let top ← outline .top .anything .nothing args
  match top.subcommand with
  | none => finish top.given (.rename top.given.rules top.given.operands) [top.given]
  | some (_, .check, rest) =>
    let check ← outline .check .anything .nothing rest
    match check.given.operands with
    | [rule] => finish top.given (.check rule) [top.given, check.given]
    | _ => throw .misuse
  | some (_, _, rest) =>
    let settings ← outline .settings .anything .nothing rest
    match settings.subcommand with
    | none => throw .misuse
    | some (name, _, rest) =>
      let last ← outline .settingsTask .anything .nothing rest
      let task := if name = "show".toList then Task.showSettings else .validateSettings
      finish top.given task [top.given, settings.given, last.given]

end Arguments

end Reroute.Command
