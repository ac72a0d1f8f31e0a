import Reroute.FileSystem.Host
import Reroute.FileSystem.Path
import Reroute.Settings.Read

set_option autoImplicit false

/-!
# The cascade of settings

Settings are collected from a directory and its parents, the nearest first, up to a file that
declares itself the root. The file in the home directory comes last, unless it was met on the way or
is switched off by a variable. Rules of nearer files are tried first.
-/

namespace Reroute.Cascade

def fileName : Text :=
  ".import-rename.toml".toList

def fileIn (dir : Text) : Text :=
  FilePath.join dir fileName

/-- The settings files of a list of directories, up to the first that is a root. -/
def walk (files : FileSystem) (checked : Bool) : List Text →
    Traced SettingsError (List LoadedSettings)
  | [] => return []
  | dir :: rest =>
    let path := fileIn dir
    match files path with
    | none => walk files checked rest
    | some entry => do
      let settings ← Settings.readEntry checked path entry
      .log (.settingsFound path settings.root)
      if settings.root then return [⟨path, settings⟩]
      else return ⟨path, settings⟩ :: (← walk files checked rest)

def isTruthy (value : Text) : Bool :=
  !value.isEmpty && ["0", "false", "no"].all fun off => value.map Char.toLower != off.toList

def homeSwitch? (environment : Environment) (found : List LoadedSettings) : Option Text :=
  found.findSome? fun loaded => do
    let name ← loaded.settings.homeSwitch
    if isTruthy (← environment name) then some name else none

def homeFile (host : Host) : Except SettingsError Text :=
  match host.home with
  | some home => .ok (fileIn home)
  | none => .error .noHome

def homeSettings (host : Host) (checked : Bool) (found : List LoadedSettings) :
    Traced SettingsError (List LoadedSettings) :=
  match homeSwitch? host.environment found with
  | some name => do
    .log (.homeSkipped name)
    return []
  | none => do
    let path ← .ofExcept (homeFile host)
    if found.any fun loaded => FilePath.same loaded.path path then return []
    else
      match host.files path with
      | none => return []
      | some entry => do
        let settings ← Settings.readEntry checked path entry
        return [⟨path, settings⟩]

/-- All settings that apply in a directory, the nearest first. If asked for, the rules of each file
are checked as soon as it is read. -/
def discover (host : Host) (checked : Bool) (start : Text) :
    Traced SettingsError (List LoadedSettings) := do
  let found ← walk host.files checked (FilePath.withParents start)
  return found ++ (← homeSettings host checked found)

def rules (host : Host) (start : Text) : Traced SettingsError (List SourcedRule) := do
  .ofExcept (mergeRules (← discover host true start))

def candidates (home : Option Text) (start : Text) : List Text :=
  (FilePath.withParents start).map fileIn ++ (home.map fileIn).toList

/-- The variable that the settings in a file name, if they name one. -/
def switchName? (path : Text) (entry : Entry) : Option Text := do
  let settings ← (Settings.readEntry false path entry).result.toOption
  settings.homeSwitch

end Reroute.Cascade
