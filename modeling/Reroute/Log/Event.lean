import Reroute.Unicode.Printable

set_option autoImplicit false

namespace Reroute

inductive Event where
  | settingsRead (path : Text) (rules : Nat)
  | settingsFound (path : Text) (root : Bool)
  | homeSkipped (variableName : Text)
  | bumpPrepared (base head : Text) (current target : Nat)
  | ruleReady (rule origin : Text)
  | pathMatched (path rule origin : Text)
  | changesCounted (changes paths : Nat)
  deriving DecidableEq, Repr

inductive Severity where
  | info
  | debug
  deriving DecidableEq, Repr

namespace Severity

def name : Severity → Text
  | .info => "INFO".toList
  | .debug => "DEBUG".toList

/-- The number of requests for more output from which events of this severity are shown. -/
def threshold : Severity → Nat
  | .info => 1
  | .debug => 2

end Severity

namespace Event

def severity : Event → Severity
  | .changesCounted _ _ => .info
  | _ => .debug

/-- A character of a message: those that could act on a terminal are written by their codes. -/
def messageChar (c : Char) : Text :=
  if c = '\x1b' then "\\x1b".toList
  else if c = '\x07' then "\\x07".toList
  else if c = '\x08' then "\\x08".toList
  else if c = '\x0c' then "\\x0c".toList
  else if c = '\x7f' then "\\x7f".toList
  else if 0x80 ≤ c.toNat ∧ c.toNat ≤ 0x9f then Text.codeEscape c
  else [c]

def truthValue (b : Bool) : Text :=
  if b then "true".toList else "false".toList

def changesMessage (changes paths : Nat) : Text :=
  (match changes with
    | 0 => "no changes".toList
    | 1 => "1 change".toList
    | n => Text.decimal n ++ " changes".toList) ++
  " detected in ".toList ++ Text.decimal paths ++ " import paths".toList

def message : Event → Text
  | .settingsRead path rules =>
    "read config path=".toList ++ path ++ " rules=".toList ++ Text.decimal rules
  | .settingsFound path root =>
    "loaded config path=".toList ++ path ++ " root=".toList ++ truthValue root
  | .homeSkipped variableName =>
    "user config lookup disabled env_var=".toList ++ Text.quoted variableName
  | .bumpPrepared base head current target =>
    "prepared version jump base=".toList ++ Text.quoted base ++ " current=".toList ++
      Text.decimal current ++ " target=".toList ++ Text.decimal target ++
      " import_head=".toList ++ head
  | .ruleReady rule origin =>
    "compiled rule rule=".toList ++ rule ++ " source=".toList ++ origin
  | .pathMatched path rule origin =>
    path.flatMap messageChar ++ " matched rule=".toList ++ rule ++ " source=".toList ++ origin
  | .changesCounted changes paths => changesMessage changes paths

def logLine (e : Event) : Text :=
  line (e.severity.name ++ ' ' :: e.message)

def isShown (verbosity : Nat) (e : Event) : Bool :=
  e.severity.threshold ≤ verbosity

end Event

end Reroute
