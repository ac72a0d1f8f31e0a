import Reroute.Command.Outcome
import Reroute.Settings.Cascade
import Reroute.Settings.Template

set_option autoImplicit false

/-!
# Running commands

A command is a function from what it can see of the machine to its outcome. It decides everything
before anything is printed or written, so a command that fails leaves nothing behind.
-/

namespace Reroute.Command

structure World where
  host : Host
  directory : Text
  input : Except Text Text
  writeProblem : Option Text
  isTerminal : Bool

def renamerEvents : Renamer → List Event
  | .version b => [.bumpPrepared b.base b.head b.current b.target]
  | _ => []

def ruleEvents (r : PreparedRule) : List Event :=
  renamerEvents r.renamer ++ [.ruleReady r.rule.display r.origin.display]

def prepareAll : List SourcedRule → Traced PrepareError (List PreparedRule)
  | [] => return []
  | r :: rest =>
    match r.prepare with
    | .error e => .fail e
    | .ok prepared => do
      (ruleEvents prepared).forM .log
      return prepared :: (← prepareAll rest)

/-- A path as it is given in a list of imports: without the blanks and quotes around it. -/
def normalizePath (t : Text) : Text :=
  Text.trimWhere (· == '\x22') (Text.trimWhere Unicode.isWhiteSpace t)

def pathsIn (t : Text) : List Text :=
  ((Text.lines t).map normalizePath).filter fun p => !p.isEmpty

def replacementLine (path replacement : Text) : Text :=
  line (path ++ " => ".toList ++ replacement)

def replacements (rules : List PreparedRule) (paths : List Text) : List (Text × RuleSet.Hit) :=
  paths.filterMap fun path => (RuleSet.find? rules path).map fun hit => (path, hit)

def matchEvent (path : Text) (hit : RuleSet.Hit) : Event :=
  .pathMatched path hit.rule.rule.display hit.rule.origin.display

def events (list : List Event) : List Notice :=
  list.map .event

def renamePaths (before : List Event) (rules : List PreparedRule) (paths : List Text) : Outcome :=
  let found := replacements rules paths
  .success (found.flatMap fun (path, hit) => replacementLine path hit.replacement)
    (events (before ++ (found.map fun (path, hit) => matchEvent path hit) ++
      [.changesCounted found.length paths.length]))

/-- Applies rules to the given paths, or to those on the input if none are given. -/
def renameWith (w : World) (before : List Event) (rules : List SourcedRule) (paths : List Text) :
    Outcome :=
  let prepared := prepareAll rules
  let before := before ++ prepared.events
  match prepared.result with
  | .error e =>
    .failure (events before ++ [fatal "Failed to compile rules".toList (e.message :: e.cause)])
  | .ok prepared =>
    if paths.isEmpty then
      match w.input with
      | .error reason =>
        .failure (events before ++
          [fatal "Failed to read import paths from stdin".toList [reason]])
      | .ok input => renamePaths before prepared (pathsIn input)
    else renamePaths before prepared (paths.map normalizePath)

def parseRules (texts : List Text) : Except ParseError (List SourcedRule) :=
  texts.mapM fun t => do return ⟨← Rule.parse t, .commandLine⟩

def noRulesMessage : Text :=
  "No rules given. Pass --rule or add rules to ".toList ++ Cascade.fileName ++ ['.']

def rename (w : World) (colored : Bool) (texts paths : List Text) : Outcome :=
  if texts.isEmpty then
    let found := Cascade.rules w.host w.directory
    match found.result with
    | .error (.invalidRule _ path e) =>
      .failure (events found.events ++ [.report (invalidEntryText colored path e)])
    | .error e =>
      .failure (events found.events ++
        [fatal "Failed to load configuration".toList (e.message :: e.cause)])
    | .ok [] => .failure (events found.events ++ [fatal noRulesMessage []])
    | .ok rules => renameWith w found.events rules paths
  else
    match parseRules texts with
    | .error e => .failure [.report (invalidRuleText colored e)]
    | .ok rules => renameWith w [] rules paths

def starter (w : World) (overwrite : Bool) : Outcome :=
  if (w.host.files Cascade.fileName).isSome && !overwrite then
    .failure [fatal (Cascade.fileName ++ " already exists. Use --force to overwrite.".toList) []]
  else
    match w.writeProblem with
    | some reason => .failure [fatal ("Failed to write ".toList ++ Cascade.fileName) [reason]]
    | none =>
      ⟨0, line ("Created ".toList ++ Cascade.fileName), [], some Settings.starter⟩

def describe (rule : Rule) (renamer : Renamer) : Text :=
  match rule, renamer with
  | .replace source target, _ =>
    line ("prefix rule: ".toList ++ rule.display) ++ line ("  from: ".toList ++ source) ++
      line ("  to:   ".toList ++ target)
  | .substitute pattern template, _ =>
    line ("regexp rule: ".toList ++ rule.display) ++ line ("  pattern:  ".toList ++ pattern) ++
      line ("  template: ".toList ++ template)
  | .bump base jump, .version b =>
    let current := if b.current = 0 then "v1 (no suffix)".toList else Version.segment b.current
    line ("version jump rule: ".toList ++ rule.display) ++ line ("  import: ".toList ++ base) ++
      line ("  jump:   ".toList ++ Text.decimal jump) ++
      line ("  major:  ".toList ++ current ++ " -> ".toList ++ Version.segment b.target)
  | .bump _ _, _ => []

def check (colored : Bool) (t : Text) : Outcome :=
  match Rule.parse t with
  | .error e => .failure [.report (invalidRuleText colored e)]
  | .ok rule =>
    match Renamer.ofRule rule with
    | .error e =>
      .failure [fatal ("Invalid rule: ".toList ++ rule.display) (e.message :: e.cause)]
    | .ok renamer => .success (describe rule renamer) (events (renamerEvents renamer))

def noFilesText : Text :=
  line "No configuration files found.".toList

def entryText (number : Nat) (entry : RuleEntry) : Text :=
  line ("  Rule ".toList ++ Text.decimal number ++ [':']) ++
    line ("    rule: ".toList ++ entry.text) ++
    (match entry.description with
      | some description => line ("    description: ".toList ++ description)
      | none => []) ++
    line []

def fileText (loaded : LoadedSettings) : Text :=
  line ("# Source: ".toList ++ loaded.path) ++
    line ("# root: ".toList ++ Event.truthValue loaded.settings.root) ++
    (match loaded.settings.homeSwitch with
      | some name => line ("# root-config-lookup-disable-env-var: ".toList ++ name)
      | none => []) ++
    line ("# rules: ".toList ++ Text.decimal loaded.settings.entries.length) ++
    line [] ++
    (loaded.settings.entries.zipIdx 1).flatMap fun (entry, number) => entryText number entry

def homeText (host : Host) : Text :=
  match Cascade.homeFile host with
  | .error _ => []
  | .ok path =>
    line ("User config path: ".toList ++ path) ++
      line (if (host.files path).isSome then "  (exists)".toList else "  (not found)".toList)

def showSettings (w : World) : Outcome :=
  let found := Cascade.discover w.host true w.directory
  match found.result with
  | .error e =>
    .failure (events found.events ++
      [fatal "Failed to discover config files".toList (e.message :: e.cause)])
  | .ok [] => .success noFilesText (events found.events)
  | .ok files =>
    .success
      (line (line "Configuration files (in cascade order):".toList) ++ files.flatMap fileText ++
        homeText w.host)
      (events found.events)

def validateEntry (colored : Bool) (path : Text) (entry : RuleEntry) : Except Text (List Event) :=
  match Rule.parse entry.text with
  | .error e => .error (invalidEntryText colored path e)
  | .ok rule =>
    match Renamer.ofRule rule with
    | .error e => .error (unusableEntryText path e.message)
    | .ok renamer => .ok (renamerEvents renamer)

def validateEntries (colored : Bool) (files : List LoadedSettings) :
    List (Except Text (List Event)) :=
  files.flatMap fun loaded =>
    loaded.settings.entries.map (validateEntry colored loaded.path)

def entryNotices : Except Text (List Event) → List Notice
  | .error report => [.report report]
  | .ok list => events list

def validText (files : List LoadedSettings) : Text :=
  line "All configuration files are valid:".toList ++
    files.flatMap fun loaded =>
      line ("  ".toList ++ loaded.path ++ " (".toList ++
        Text.decimal loaded.settings.entries.length ++ " rules)".toList)

def validateSettings (w : World) (colored : Bool) : Outcome :=
  let found := Cascade.discover w.host false w.directory
  match found.result with
  | .error e =>
    .failure (events found.events ++
      [.report (line ("Configuration error: ".toList ++ e.message))])
  | .ok [] => .success noFilesText (events found.events)
  | .ok files =>
    let checked := validateEntries colored files
    let notices := events found.events ++ checked.flatMap entryNotices
    if checked.all Except.isOk then .success (validText files) notices else .failure notices

def run (w : World) (i : Invocation) : Outcome :=
  let colored := i.color.usesColor w.isTerminal
  match i.task with
  | .rename rules paths => rename w colored rules paths
  | .starter overwrite => starter w overwrite
  | .check rule => check colored rule
  | .showSettings => showSettings w
  | .validateSettings => validateSettings w colored

/-- Whether a command reads its input: only if paths are to be renamed, none are given, and nothing
fails before. -/
def readsInput (w : World) (i : Invocation) : Bool :=
  match i.task with
  | .rename _ [] => (run { w with input := .ok [] } i).code == 0
  | _ => false

end Reroute.Command
