import Reroute.Renaming.RuleSet
import Reroute.Rule.Parser

set_option autoImplicit false

namespace Reroute

structure RuleEntry where
  text : Text
  description : Option Text
  deriving DecidableEq, Repr

structure Settings where
  /-- Whether the search stops here on the way up. -/
  root : Bool
  /-- The variable that keeps the file in the home directory from being used. -/
  homeSwitch : Option Text
  entries : List RuleEntry
  deriving DecidableEq, Repr

structure LoadedSettings where
  path : Text
  settings : Settings
  deriving DecidableEq, Repr

inductive SettingsError where
  | unreadable (path reason : Text)
  | unparsable (path : Text)
  | invalidRule (rule path : Text) (cause : ParseError)
  | noHome
  deriving DecidableEq, Repr

namespace SettingsError

def message : SettingsError → Text
  | .unreadable path _ => "Failed to read config file: ".toList ++ path
  | .unparsable path => "Failed to parse config file: ".toList ++ path
  | .invalidRule rule path _ => "Invalid rule \x60".toList ++ rule ++ "\x60 in ".toList ++ path
  | .noHome => "Failed to resolve home directory".toList

def cause : SettingsError → List Text
  | .unreadable _ reason => [reason]
  | .unparsable _ => ["TOML parse error at a place that cannot be read".toList]
  | .invalidRule _ _ cause => [cause.message]
  | .noHome => []

end SettingsError

namespace RuleEntry

def rule (path : Text) (entry : RuleEntry) : Except SettingsError Rule :=
  match Rule.parse entry.text with
  | .ok r => .ok r
  | .error e => .error (.invalidRule entry.text path e)

end RuleEntry

namespace LoadedSettings

def rules (loaded : LoadedSettings) : Except SettingsError (List SourcedRule) :=
  loaded.settings.entries.mapM fun entry => do
    return ⟨← entry.rule loaded.path, .file loaded.path⟩

end LoadedSettings

def mergeRules (files : List LoadedSettings) : Except SettingsError (List SourcedRule) := do
  return (← files.mapM LoadedSettings.rules).flatten

end Reroute
