import Reroute.FileSystem.Host
import Reroute.Log.Traced
import Reroute.Settings.Basic
import Reroute.Toml.Document

set_option autoImplicit false

namespace Reroute

open Toml (Value Entries)

def canIgnoreOthers (known : List Text) (entries : Entries) : Bool :=
  entries.all fun (key, value) => known.contains key || value.isRepresentable

def optionalText? (key : Text) (entries : Entries) : Option (Option Text) :=
  match entries.find? key with
  | none => some none
  | some (.string t) => some (some t)
  | some _ => none

namespace RuleEntry

def textKey : Text := "rule".toList

def descriptionKey : Text := "description".toList

/-- An entry is a table with a rule and perhaps a description, or an array that starts with both. -/
def ofValue? : Value → Option RuleEntry
  | .table _ entries => do
    let some text ← optionalText? textKey entries | none
    let description ← optionalText? descriptionKey entries
    if canIgnoreOthers [textKey, descriptionKey] entries then some ⟨text, description⟩ else none
  | .array _ (.string text :: .string description :: _) => some ⟨text, some description⟩
  | _ => none

end RuleEntry

namespace Settings

def rootKey : Text := "root".toList

def homeSwitchKey : Text := "root-config-lookup-disable-env-var".toList

def entriesKey : Text := "rules".toList

def ofEntries? (entries : Entries) : Option Settings := do
  let root ← match entries.find? rootKey with
    | none => some false
    | some (.boolean b) => some b
    | some _ => none
  let homeSwitch ← optionalText? homeSwitchKey entries
  let rules ← match entries.find? entriesKey with
    | none => some []
    | some (.array _ items) => items.mapM RuleEntry.ofValue?
    | some _ => none
  if canIgnoreOthers [rootKey, homeSwitchKey, entriesKey] entries then
    some ⟨root, homeSwitch, rules⟩
  else none

def ofText (path content : Text) : Except SettingsError Settings :=
  match (Toml.parse? content).bind ofEntries? with
  | some settings => .ok settings
  | none => .error (.unparsable path)

def check (path : Text) (settings : Settings) : Except SettingsError Unit :=
  settings.entries.forM fun entry => do
    let _ ← entry.rule path

def readText (checked : Bool) (path content : Text) : Traced SettingsError Settings := do
  let settings ← .ofExcept (ofText path content)
  .log (.settingsRead path settings.entries.length)
  if checked then .ofExcept (settings.check path)
  return settings

def readEntry (checked : Bool) (path : Text) (entry : Entry) : Traced SettingsError Settings :=
  match entry.read with
  | .ok content => readText checked path content
  | .error reason => .fail (.unreadable path reason)

end Settings

end Reroute
