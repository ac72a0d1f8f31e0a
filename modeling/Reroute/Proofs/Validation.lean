import Reroute.Command.Run
import Reroute.Proofs.RuleShadowing

set_option autoImplicit false

namespace Reroute

theorem RuleEntry.parses_of_renamer? {entry : RuleEntry} (h : entry.renamer?.isSome = true) :
    entry.Parses := by
  rw [RuleEntry.renamer?] at h
  cases hparse : Rule.parse entry.text with
  | error e =>
    rw [hparse] at h
    cases h
  | ok rule => exact ⟨rule, hparse⟩

theorem ReadFrom.exists_prepare_iff {x : Text × RuleEntry} {r : SourcedRule}
    (h : ReadFrom x r) : (∃ p, r.prepare = .ok p) ↔ x.2.renamer?.isSome = true := by
  rw [RuleEntry.renamer?, h.1]
  change _ ↔ (Renamer.ofRule r.rule).toOption.isSome = true
  cases hrenamer : Renamer.ofRule r.rule with
  | error e => simp [SourcedRule.prepare_eq_ok_iff, hrenamer, Except.toOption]
  | ok renamer =>
    exact iff_of_true ⟨⟨r.rule, renamer, r.origin⟩,
      SourcedRule.prepare_eq_ok_iff.2 ⟨rfl, hrenamer, rfl⟩⟩ rfl

theorem exists_prepare_iff {entries : List (Text × RuleEntry)} {rules : List SourcedRule}
    (h : List.Forall₂ ReadFrom entries rules) :
    (∃ prepared, RuleSet.prepare rules = .ok prepared) ↔
      ∀ x ∈ entries, x.2.renamer?.isSome = true := by
  rw [RuleSet.prepare, exists_mapM_eq_ok_iff]
  induction h with
  | nil => simp
  | cons hx _ ih => rw [List.forall_mem_cons, List.forall_mem_cons, ih, hx.exists_prepare_iff]

theorem Cascade.exists_prepared_rules_iff {host : Host} {start : Text} :
    (∃ rules prepared, (Cascade.rules host start).result = .ok rules ∧ rules ≠ [] ∧
      RuleSet.prepare rules = .ok prepared) ↔
    ∃ files, (discover host false start).result = .ok files ∧ ruleEntries files ≠ [] ∧
      ∀ x ∈ ruleEntries files, x.2.renamer?.isSome = true := by
  have hempty : ∀ {entries : List (Text × RuleEntry)} {rules : List SourcedRule},
      List.Forall₂ ReadFrom entries rules → (rules ≠ [] ↔ entries ≠ []) := fun h => by
    rw [← List.length_pos_iff, ← List.length_pos_iff, h.length_eq]
  constructor
  · rintro ⟨rules, prepared, hrules, hne, hprepare⟩
    obtain ⟨files, hfiles, hread⟩ := rules_eq_ok_iff.1 hrules
    exact ⟨files, (discover_true_eq_ok_iff.1 hfiles).1, (hempty hread).1 hne,
      (exists_prepare_iff hread).1 ⟨prepared, hprepare⟩⟩
  · rintro ⟨files, hfiles, hne, husable⟩
    obtain ⟨rules, hrules⟩ := exists_mergeRules_eq_ok_iff.2 fun x hx =>
      RuleEntry.parses_of_renamer? (husable x hx)
    have hread := mergeRules_eq_ok_iff.1 hrules
    obtain ⟨prepared, hprepare⟩ := (exists_prepare_iff hread).2 husable
    have hchecked := discover_true_eq_ok_iff.2 ⟨hfiles, rules, hrules⟩
    exact ⟨rules, prepared, rules_eq_ok_iff.2 ⟨files, hchecked, hread⟩, (hempty hread).2 hne,
      hprepare⟩

namespace Command

theorem result_forM_log (list : List Event) :
    (list.forM Traced.log : Traced PrepareError PUnit).result = .ok ⟨⟩ := by
  induction list with
  | nil => rfl
  | cons e list ih =>
    rw [List.forM, Traced.result_bind, Traced.result_log]
    exact ih

theorem result_prepareAll (rules : List SourcedRule) :
    (prepareAll rules).result = RuleSet.prepare rules := by
  induction rules with
  | nil => rfl
  | cons r rules ih =>
    rw [prepareAll, RuleSet.prepare]
    cases hr : r.prepare with
    | error e => exact (mapM_cons_of_error hr rules).symm
    | ok prepared =>
      rw [mapM_cons_of_ok hr, ← RuleSet.prepare, ← ih]
      simp only [Traced.result_bind, result_forM_log]
      cases (prepareAll rules).result <;> rfl

theorem code_rename_eq_zero_iff {w : World} {colored : Bool} {paths : List Text}
    (hpaths : paths ≠ []) : (rename w colored [] paths).code = 0 ↔
      ∃ rules prepared, (Cascade.rules w.host w.directory).result = .ok rules ∧ rules ≠ [] ∧
        RuleSet.prepare rules = .ok prepared := by
  simp only [rename, List.isEmpty_nil, if_true]
  cases (Cascade.rules w.host w.directory).result with
  | error e => cases e <;> simp [Outcome.failure]
  | ok rules =>
    cases rules with
    | nil => simp [Outcome.failure]
    | cons r rules =>
      simp only [renameWith, result_prepareAll]
      cases hprepare : RuleSet.prepare (r :: rules) with
      | error e => simp [hprepare, Outcome.failure]
      | ok prepared => simp [hprepare, hpaths, renamePaths, Outcome.success]

/-- What is reported of an entry that cannot be used. Of a text that is no rule: its file, what is
wrong with it, and the lines that show where, each indented. Of a rule that cannot be prepared: its
file and why. -/
inductive Reports (colored : Bool) (x : Text × RuleEntry) : Text → Prop where
  | invalid {cause : ParseError} (h : Rule.parse x.2.text = .error cause) :
      Reports colored x ("error: invalid rule in ".toList ++ x.1 ++ ", ".toList ++ cause.message ++
        ['\n'] ++ (Text.lines (if colored then cause.diagnostic.ansi
          else cause.diagnostic.plain)).flatMap fun l => "    ".toList ++ l ++ ['\n'])
  | unusable {rule : Rule} {e : PrepareError} (h : Rule.parse x.2.text = .ok rule)
      (he : Renamer.ofRule rule = .error e) :
      Reports colored x ("Configuration error in ".toList ++ x.1 ++ ": ".toList ++ e.message ++
        ['\n'])

theorem reports_invalidEntryText {colored : Bool} {x : Text × RuleEntry} {cause : ParseError}
    (h : Rule.parse x.2.text = .error cause) :
    Reports colored x (invalidEntryText colored x.1 cause) :=
  .invalid h

theorem validateEntry_cases (colored : Bool) (x : Text × RuleEntry) :
    (∃ list, validateEntry colored x.1 x.2 = .ok list ∧ x.2.renamer?.isSome = true) ∨
    ∃ t, validateEntry colored x.1 x.2 = .error t ∧ x.2.renamer?.isSome = false ∧
      Reports colored x t := by
  rw [validateEntry, RuleEntry.renamer?]
  cases hparse : Rule.parse x.2.text with
  | error cause => exact .inr ⟨_, rfl, rfl, reports_invalidEntryText hparse⟩
  | ok rule =>
    simp only [Except.toOption, Option.bind_some]
    cases hrenamer : Renamer.ofRule rule with
    | error e => exact .inr ⟨_, rfl, rfl, .unusable hparse hrenamer⟩
    | ok renamer => exact .inl ⟨_, rfl, rfl⟩

theorem validateEntries_eq (colored : Bool) (files : List LoadedSettings) :
    validateEntries colored files =
      (ruleEntries files).map fun x => validateEntry colored x.1 x.2 := by
  simp only [validateEntries, ruleEntries, List.map_flatMap, List.map_map]
  rfl

theorem isOk_validateEntry (colored : Bool) (x : Text × RuleEntry) :
    (validateEntry colored x.1 x.2).isOk = x.2.renamer?.isSome := by
  rcases validateEntry_cases colored x with ⟨list, hlist, husable⟩ | ⟨t, ht, hbroken, -⟩
  · rw [hlist, husable]
    rfl
  · rw [ht, hbroken]
    rfl

theorem code_validateSettings_eq_zero_iff {w : World} {colored : Bool} :
    (validateSettings w colored).code = 0 ↔
      ∃ files, (Cascade.discover w.host false w.directory).result = .ok files ∧
        ∀ x ∈ ruleEntries files, x.2.renamer?.isSome = true := by
  rw [validateSettings]
  cases (Cascade.discover w.host false w.directory).result with
  | error e => simp [Outcome.failure]
  | ok files =>
    cases files with
    | nil => simp [Outcome.success, ruleEntries]
    | cons loaded files =>
      have hall : (validateEntries colored (loaded :: files)).all Except.isOk = true ↔
          ∀ x ∈ ruleEntries (loaded :: files), x.2.renamer?.isSome = true := by
        simp only [validateEntries_eq, List.all_map, List.all_eq_true, Function.comp_apply,
          isOk_validateEntry]
      -- Both branches print the same notices and differ in their exit code.
      simp only [Except.ok.injEq, exists_eq_left', ← hall]
      split_ifs with hvalid <;> simp [hvalid, Outcome.success, Outcome.failure]

def Notice.report? : Notice → Option Text
  | .event _ => none
  | .report t => some t

def Outcome.reports (o : Outcome) : List Text :=
  o.notices.filterMap Notice.report?

theorem reports_events (list : List Event) : (events list).filterMap Notice.report? = [] := by
  rw [events, List.filterMap_map]
  exact List.filterMap_eq_nil_iff.2 fun _ _ => rfl

theorem reports_validateSettings {w : World} {colored : Bool} {files : List LoadedSettings}
    (h : (Cascade.discover w.host false w.directory).result = .ok files) :
    (validateSettings w colored).reports =
      ((validateEntries colored files).flatMap entryNotices).filterMap Notice.report? := by
  rw [validateSettings, h]
  cases files with
  | nil => exact reports_events _
  | cons loaded files =>
    simp only
    split_ifs <;>
      simp only [Outcome.reports, Outcome.success, Outcome.failure, List.filterMap_append,
        reports_events, List.nil_append]

theorem forall₂_reports (colored : Bool) (entries : List (Text × RuleEntry)) :
    List.Forall₂ (Reports colored) (entries.filter fun x => !x.2.renamer?.isSome)
      (((entries.map fun x => validateEntry colored x.1 x.2).flatMap entryNotices).filterMap
        Notice.report?) := by
  induction entries with
  | nil => exact .nil
  | cons x entries ih =>
    rw [List.map_cons, List.flatMap_cons, List.filterMap_append]
    rcases validateEntry_cases colored x with ⟨list, hlist, husable⟩ | ⟨t, ht, hbroken, hreports⟩
    · rw [List.filter_cons_of_neg (by simp [husable]), hlist, entryNotices, reports_events,
        List.nil_append]
      exact ih
    · rw [List.filter_cons_of_pos (by simp [hbroken]), ht]
      exact .cons hreports ih

theorem reports_of_discover_error {w : World} {colored : Bool} {e : SettingsError}
    (h : (Cascade.discover w.host false w.directory).result = .error e) :
    (validateSettings w colored).code = 1 ∧
      (validateSettings w colored).reports =
        ["Configuration error: ".toList ++ e.message ++ ['\n']] := by
  simp only [validateSettings, h, Outcome.reports, Outcome.failure, List.filterMap_append,
    reports_events]
  exact ⟨trivial, rfl⟩

theorem reports_rename {w : World} {colored : Bool} {paths : List Text} {text path : Text}
    {cause : ParseError} (h : (Cascade.rules w.host w.directory).result =
      .error (.invalidRule text path cause)) :
    (rename w colored [] paths).reports = [invalidEntryText colored path cause] := by
  simp only [rename, List.isEmpty_nil, if_true, h, Outcome.reports, Outcome.failure,
    List.filterMap_append, reports_events]
  rfl

/-- An invalid rule stops renaming whatever is found behind its file. -/
theorem result_rules_of_invalid {host : Host} {start : Text} {found : List LoadedSettings}
    {rest : List (Except SettingsError LoadedSettings)}
    (hattempts : Cascade.attempts host false start = found.map .ok ++ rest) {e : SettingsError}
    (hmerge : mergeRules found = .error e) : (Cascade.rules host start).result = .error e := by
  rw [Cascade.rules, Traced.result_bind,
    Cascade.result_discover_of_invalid hattempts hmerge]
  rfl

theorem Outcome.errorOutput_zero (o : Outcome) : o.errorOutput 0 = o.reports.flatten := by
  rw [errorOutput, reports]
  induction o.notices with
  | nil => rfl
  | cons notice notices ih =>
    rw [List.flatMap_cons, ih]
    cases notice with
    | event e => cases e <;> rfl
    | report t => rfl

/-- Renaming succeeds where validation does, if there is a rule. If all files can be read and the
home directory is known where it matters, then validation reports the entries that cannot be used
and no others. Otherwise it reports the first file that cannot be read, or the missing home
directory, and no entry. Renaming reports the first entry in front of that failure that cannot be
parsed. -/
theorem validation_agrees_with_renaming {w : World} {i j : Invocation} {paths : List Text}
    (hi : i.task = .rename [] paths) (hpaths : paths ≠ []) (hj : j.task = .validateSettings) :
    ((run w i).errorOutput 0 = (run w i).reports.flatten ∧
      (run w j).errorOutput 0 = (run w j).reports.flatten) ∧
    ((run w i).code = 0 ↔ (run w j).code = 0 ∧
      ∃ files, (Cascade.discover w.host false w.directory).result = .ok files ∧
        ruleEntries files ≠ []) ∧
    (∀ found : List LoadedSettings, Cascade.attempts w.host false w.directory = found.map .ok →
      List.Forall₂ (Reports (j.color.usesColor w.isTerminal))
        ((ruleEntries found).filter fun x => !x.2.renamer?.isSome) (run w j).reports) ∧
    (∀ (found : List LoadedSettings) e rest,
      Cascade.attempts w.host false w.directory = found.map .ok ++ .error e :: rest →
      (run w j).code = 1 ∧
        (run w j).reports = ["Configuration error: ".toList ++ e.message ++ ['\n']]) ∧
    ∀ (found : List LoadedSettings) rest,
      Cascade.attempts w.host false w.directory = found.map .ok ++ rest →
      (∃ x ∈ ruleEntries found, ¬ x.2.Parses) →
      ∃ before x after report, ruleEntries found = before ++ x :: after ∧
        (∀ y ∈ before, y.2.Parses) ∧ ¬ x.2.Parses ∧
        Reports (i.color.usesColor w.isTerminal) x report ∧ (run w i).reports = [report] := by
  refine ⟨⟨Outcome.errorOutput_zero _, Outcome.errorOutput_zero _⟩, ?_⟩
  simp only [run, hi, hj]
  refine ⟨?_, fun found hattempts => ?_, fun found e rest hattempts => ?_,
    fun found rest hattempts hinvalid => ?_⟩
  · rw [code_rename_eq_zero_iff hpaths, Cascade.exists_prepared_rules_iff,
      code_validateSettings_eq_zero_iff]
    constructor
    · rintro ⟨files, hfiles, hne, husable⟩
      exact ⟨⟨files, hfiles, husable⟩, files, hfiles, hne⟩
    · rintro ⟨⟨files, hfiles, husable⟩, files', hfiles', hne⟩
      obtain rfl := Except.ok.inj (hfiles.symm.trans hfiles')
      exact ⟨files, hfiles, hne, husable⟩
  · have hfiles := Cascade.result_discover w.host false w.directory
    rw [collect_eq_ok_iff.2 hattempts] at hfiles
    rw [reports_validateSettings hfiles, validateEntries_eq]
    exact forall₂_reports _ _
  · refine reports_of_discover_error ?_
    rw [Cascade.result_discover]
    exact collect_eq_error_iff.2 ⟨found, rest, hattempts⟩
  · obtain ⟨e, hfirst, hmerge⟩ := exists_firstInvalid hinvalid
    obtain ⟨before, path, entry, after, cause, heq, hbefore, hcause, rfl⟩ := hfirst
    refine ⟨before, (path, entry), after, _, heq, hbefore, ?_, reports_invalidEntryText hcause,
      reports_rename (result_rules_of_invalid hattempts hmerge)⟩
    rintro ⟨rule, hrule⟩
    cases hcause.symm.trans hrule

def careless : World where
  host := {
    files := fun path =>
      [("a/.import-rename.toml".toList,
        Entry.file "rules = [['p => q', ''], ['p --x', ''], ['( // x', '']]".toList)].lookup path
    environment := fun _ => none
    home := some "/h".toList }
  directory := "a".toList
  input := .ok []
  writeProblem := none
  isTerminal := false

def carelessFile : LoadedSettings :=
  ⟨"a/.import-rename.toml".toList, ⟨false, none, [⟨"p => q".toList, some []⟩,
    ⟨"p --x".toList, some []⟩, ⟨"( // x".toList, some []⟩]⟩⟩

theorem validation_agrees_with_renaming_careless :
    let renamed : Invocation := ⟨.rename [] ["p/x".toList], .auto, 0⟩
    let validated : Invocation := ⟨.validateSettings, .auto, 0⟩
    Arguments.parse ["p/x".toList] = .ok renamed ∧
    Arguments.parse ["config".toList, "validate".toList] = .ok validated ∧
    (run careless validated).code = 1 ∧ (run careless renamed).code ≠ 0 ∧
    List.Forall₂ (Reports false)
      [(carelessFile.path, ⟨"p --x".toList, some []⟩),
        (carelessFile.path, ⟨"( // x".toList, some []⟩)]
      (run careless validated).reports ∧
    ∃ x report, x ∈ ruleEntries [carelessFile] ∧ ¬ x.2.Parses ∧ Reports false x report ∧
      (run careless renamed).errorOutput 0 = report := by
  intro renamed validated
  have hvalidated : (run careless validated).code = 1 := by decide +kernel
  have hattempts : Cascade.attempts careless.host false careless.directory =
      [carelessFile].map .ok := by decide +kernel
  have hbroken : (ruleEntries [carelessFile]).filter (fun x => !x.2.renamer?.isSome) =
      [(carelessFile.path, ⟨"p --x".toList, some []⟩),
        (carelessFile.path, ⟨"( // x".toList, some []⟩)] := by decide +kernel
  obtain ⟨⟨hshown, -⟩, hcode, hreports, -, hfirst⟩ := validation_agrees_with_renaming (w := careless)
    (i := renamed) (j := validated) rfl (List.cons_ne_nil _ _) rfl
  have hall := hreports [carelessFile] hattempts
  rw [hbroken] at hall
  have hinvalid : ∃ x ∈ ruleEntries [carelessFile], ¬ x.2.Parses :=
    ⟨(carelessFile.path, ⟨"p --x".toList, some []⟩), by decide +kernel, Cascade.not_parses_dashes⟩
  obtain ⟨before, x, after, report, heq, -, hparses, hreport, hrenamed⟩ :=
    hfirst [carelessFile] [] (by rw [hattempts, List.append_nil]) hinvalid
  rw [hrenamed, List.flatten_singleton] at hshown
  refine ⟨by rfl, by rfl, hvalidated, fun h => ?_, hall, x, report, ?_, hparses, hreport, hshown⟩
  · rw [(hcode.1 h).1] at hvalidated
    cases hvalidated
  · rw [heq]
    exact List.mem_append_right before List.mem_cons_self

def mistyped : World :=
  { careless with
    host := { careless.host with
      files := fun path =>
        if path = ".import-rename.toml".toList then some (.file "root = 1".toList)
        else careless.host.files path } }

/-- Validation reports no entry if the home directory is not known, or if a file is a document that
holds no settings. -/
theorem validation_stops_before_entries :
    let validated : Invocation := ⟨.validateSettings, .auto, 0⟩
    let homeless : World := { careless with host := { careless.host with home := none } }
    let x := (carelessFile.path, (⟨"p --x".toList, some []⟩ : RuleEntry))
    x ∈ ruleEntries [carelessFile] ∧ ¬ x.2.Parses ∧
    (Cascade.attempts homeless.host false homeless.directory = [.ok carelessFile, .error .noHome] ∧
      (run homeless validated).reports =
        ["Configuration error: Failed to resolve home directory\n".toList] ∧
      ∀ report ∈ (run homeless validated).reports, ¬ Reports false x report) ∧
    mistyped.host.files ".import-rename.toml".toList = some (.file "root = 1".toList) ∧
    (Toml.parse? "root = 1".toList).isSome = true ∧
    Cascade.attempts mistyped.host false mistyped.directory =
      [.ok carelessFile, .error (.unparsable ".import-rename.toml".toList)] ∧
    (run mistyped validated).reports =
      ["Configuration error: Failed to parse config file: .import-rename.toml\n".toList] ∧
    ∀ report ∈ (run mistyped validated).reports, ¬ Reports false x report := by
  intro validated homeless x
  have hparses : ¬ x.2.Parses := Cascade.not_parses_dashes
  have hother : ∀ rest, ¬ Reports false x ('C' :: rest) := by
    intro rest hreport
    generalize hreported : 'C' :: rest = reported at hreport
    cases hreport with
    | invalid _ => cases hreported
    | unusable h _ => exact hparses ⟨_, h⟩
  have hhomeless : (run homeless validated).reports =
      ["Configuration error: Failed to resolve home directory\n".toList] := by decide +kernel
  have hmistyped : (run mistyped validated).reports =
      ["Configuration error: Failed to parse config file: .import-rename.toml\n".toList] := by
    decide +kernel
  refine ⟨by decide +kernel, hparses, ⟨by decide +kernel, hhomeless, ?_⟩, by decide +kernel,
    by decide +kernel, by decide +kernel, hmistyped, ?_⟩
  · rw [hhomeless]
    exact List.forall_mem_singleton.2 (hother _)
  · rw [hmistyped]
    exact List.forall_mem_singleton.2 (hother _)

end Command

end Reroute
