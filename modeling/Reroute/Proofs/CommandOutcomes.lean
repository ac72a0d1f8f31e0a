import Reroute.Proofs.CommandLines
import Reroute.Proofs.Validation

set_option autoImplicit false

namespace Reroute.Command

/-- A command that writes no file, and prints only if it succeeds. -/
inductive Outcome.OnlyPrints : Outcome → Prop where
  | success (output : Text) (notices : List Notice) : OnlyPrints (.success output notices)
  | failure (notices : List Notice) : OnlyPrints (.failure notices)

theorem Outcome.OnlyPrints.written_eq {o : Outcome} (h : o.OnlyPrints) : o.written = none := by
  cases h with
  | success output notices => rfl
  | failure notices => rfl

theorem Outcome.OnlyPrints.code_cases {o : Outcome} (h : o.OnlyPrints) :
    o.code = 0 ∨ o.code = 1 ∧ o.output = [] ∧ o.written = none := by
  cases h with
  | success output notices => exact .inl rfl
  | failure notices => exact .inr ⟨rfl, rfl, rfl⟩

theorem onlyPrints_check (colored : Bool) (t : Text) : (check colored t).OnlyPrints := by
  unfold check
  split
  · exact .failure _
  · split
    · exact .failure _
    · exact .success _ _

theorem onlyPrints_renameWith (w : World) (before : List Event) (rules : List SourcedRule)
    (paths : List Text) : (renameWith w before rules paths).OnlyPrints := by
  unfold renameWith
  simp only
  split
  · exact .failure _
  · split_ifs
    · split
      · exact .failure _
      · exact .success _ _
    · exact .success _ _

theorem onlyPrints_rename (w : World) (colored : Bool) (texts paths : List Text) :
    (rename w colored texts paths).OnlyPrints := by
  unfold rename
  split_ifs
  · simp only
    split
    · exact .failure _
    · exact .failure _
    · exact .failure _
    · exact onlyPrints_renameWith _ _ _ _
  · split
    · exact .failure _
    · exact onlyPrints_renameWith _ _ _ _

theorem onlyPrints_showSettings (w : World) : (showSettings w).OnlyPrints := by
  unfold showSettings
  simp only
  split
  · exact .failure _
  · exact .success _ _
  · exact .success _ _

theorem onlyPrints_validateSettings (w : World) (colored : Bool) :
    (validateSettings w colored).OnlyPrints := by
  unfold validateSettings
  simp only
  split
  · exact .failure _
  · exact .success _ _
  · split_ifs
    · exact .success _ _
    · exact .failure _

theorem starter_cases (w : World) (overwrite : Bool) :
    (∃ notices, starter w overwrite = .failure notices) ∨
    ∃ output, starter w overwrite = ⟨0, output, [], some Settings.starter⟩ ∧
      ((w.host.files Cascade.fileName).isSome = true → overwrite = true) := by
  unfold starter
  split_ifs with hexists
  · exact .inl ⟨_, rfl⟩
  · split
    · exact .inl ⟨_, rfl⟩
    · refine .inr ⟨_, rfl, fun hsome => ?_⟩
      simpa [hsome] using hexists

theorem run_cases (w : World) (i : Invocation) :
    (run w i).OnlyPrints ∨
    ∃ overwrite output, i.task = .starter overwrite ∧
      run w i = ⟨0, output, [], some Settings.starter⟩ ∧
      ((w.host.files Cascade.fileName).isSome = true → overwrite = true) := by
  unfold run
  simp only
  cases htask : i.task with
  | rename texts paths => exact .inl (onlyPrints_rename _ _ _ _)
  | check t => exact .inl (onlyPrints_check _ _)
  | showSettings => exact .inl (onlyPrints_showSettings _)
  | validateSettings => exact .inl (onlyPrints_validateSettings _ _)
  | starter overwrite =>
    rcases starter_cases w overwrite with ⟨notices, h⟩ | ⟨output, h, hleave⟩
    · have honly : (starter w overwrite).OnlyPrints := by
        rw [h]
        exact .failure notices
      exact .inl honly
    · exact .inr ⟨overwrite, output, rfl, h, hleave⟩

def Ready (text : Text) (renamer : Renamer) : Prop :=
  ∃ rule, Rule.parse text = .ok rule ∧ Renamer.ofRule rule = .ok renamer

/-- The rule texts that are used: those that are given, or else those in the settings. -/
inductive RuleTexts (w : World) : List Text → List Text → Prop where
  | given {texts : List Text} (h : texts ≠ []) : RuleTexts w texts texts
  | settings {files : List LoadedSettings}
      (h : (Cascade.discover w.host false w.directory).result = .ok files)
      (hne : ruleEntries files ≠ []) :
      RuleTexts w [] ((ruleEntries files).map fun x => x.2.text)

/-- The paths that are looked at: those that are given, or else those on the input that are not
blank. -/
inductive Paths (w : World) : List Text → List Text → Prop where
  | given {paths : List Text} (h : paths ≠ []) : Paths w paths (paths.map normalizePath)
  | input {t : Text} (h : w.input = .ok t) : Paths w [] (pathsIn t)

/-- What is printed for a list of paths: a line for each that some renamer replaces, made by the
first that does. -/
inductive Prints (renamers : List Renamer) : List Text → Text → Prop where
  | done : Prints renamers [] []
  | replaced {path replacement printed : Text} {paths : List Text}
      (h : renamers.findSome? (Renamer.replacement? · path) = some replacement)
      (rest : Prints renamers paths printed) :
      Prints renamers (path :: paths) (line (path ++ " => ".toList ++ replacement) ++ printed)
  | untouched {path printed : Text} {paths : List Text}
      (h : ∀ r ∈ renamers, r.replacement? path = none) (rest : Prints renamers paths printed) :
      Prints renamers (path :: paths) printed

theorem replacement_findFrom (index : Nat) (prepared : List PreparedRule) (path : Text) :
    (RuleSet.findFrom index prepared path).map RuleSet.Hit.replacement =
      (prepared.map PreparedRule.renamer).findSome? (Renamer.replacement? · path) := by
  induction prepared generalizing index with
  | nil => rfl
  | cons r prepared ih =>
    rw [RuleSet.findFrom, List.map_cons, List.findSome?_cons]
    cases r.renamer.replacement? path with
    | none => exact ih (index + 1)
    | some replacement => rfl

theorem prints_replacements (prepared : List PreparedRule) (paths : List Text) :
    Prints (prepared.map PreparedRule.renamer) paths
      ((replacements prepared paths).flatMap fun (path, hit) =>
        replacementLine path hit.replacement) := by
  induction paths with
  | nil => exact .done
  | cons path paths ih =>
    have hfirst := replacement_findFrom 0 prepared path
    rw [replacements, List.filterMap_cons]
    cases hfind : RuleSet.find? prepared path with
    | none =>
      refine .untouched (fun r hr => ?_) ih
      obtain ⟨p, hp, rfl⟩ := List.mem_map.1 hr
      exact RuleSet.find?_eq_none_iff.1 hfind p hp
    | some hit =>
      rw [RuleSet.find?] at hfind
      rw [hfind] at hfirst
      exact .replaced hfirst.symm ih

inductive Loads (w : World) : List Text → List SourcedRule → Prop where
  | given {texts : List Text} {rules : List SourcedRule} (hne : texts ≠ [])
      (h : parseRules texts = .ok rules) : Loads w texts rules
  | settings {rules : List SourcedRule} (h : (Cascade.rules w.host w.directory).result = .ok rules)
      (hne : rules ≠ []) : Loads w [] rules

def Writes (text : Text) (r : SourcedRule) : Prop :=
  Rule.parse text = .ok r.rule

variable {w : World} {texts ruleTexts : List Text} {rules : List SourcedRule}

theorem forall₂_writes_of_parseRules (h : parseRules texts = .ok rules) :
    List.Forall₂ Writes texts rules := by
  refine (mapM_eq_ok_iff.1 h).imp fun t r hr => ?_
  obtain ⟨rule, hrule, hr⟩ := bind_eq_ok_iff.1 hr
  obtain rfl := Except.ok.inj hr
  exact hrule

theorem exists_parseRules_eq_ok (h : ∀ t ∈ texts, ∃ rule, Rule.parse t = .ok rule) :
    ∃ rules, parseRules texts = .ok rules := by
  refine exists_mapM_eq_ok_iff.2 fun t ht => ?_
  obtain ⟨rule, hrule⟩ := h t ht
  exact ⟨⟨rule, .commandLine⟩, bind_eq_ok_iff.2 ⟨rule, hrule, rfl⟩⟩

theorem forall₂_writes_of_readFrom {entries : List (Text × RuleEntry)}
    (h : List.Forall₂ ReadFrom entries rules) :
    List.Forall₂ Writes (entries.map fun x => x.2.text) rules :=
  List.forall₂_map_left_iff.2 (h.imp fun _ _ hx => hx.1)

theorem Loads.exists_ruleTexts (h : Loads w texts rules) :
    ∃ ruleTexts, RuleTexts w texts ruleTexts ∧ List.Forall₂ Writes ruleTexts rules := by
  cases h with
  | given hne hparse => exact ⟨texts, .given hne, forall₂_writes_of_parseRules hparse⟩
  | settings hrules hne =>
    -- The entries were parsed while the files were read, so the unchecked files are the same.
    obtain ⟨files, hfiles, hread⟩ := Cascade.rules_eq_ok_iff.1 hrules
    have hentries : ruleEntries files ≠ [] := by
      intro hnone
      rw [hnone] at hread
      exact hne (List.forall₂_nil_left_iff.1 hread)
    exact ⟨_, .settings (Cascade.discover_true_eq_ok_iff.1 hfiles).1 hentries,
      forall₂_writes_of_readFrom hread⟩

theorem RuleTexts.exists_loads (h : RuleTexts w texts ruleTexts)
    (hparse : ∀ t ∈ ruleTexts, ∃ rule, Rule.parse t = .ok rule) :
    ∃ rules, Loads w texts rules ∧ List.Forall₂ Writes ruleTexts rules := by
  cases h with
  | given hne =>
    obtain ⟨rules, hrules⟩ := exists_parseRules_eq_ok hparse
    exact ⟨rules, .given hne hrules, forall₂_writes_of_parseRules hrules⟩
  | @settings files hfiles hne =>
    obtain ⟨rules, hmerge⟩ := exists_mergeRules_eq_ok_iff.2 fun x hx =>
      hparse x.2.text (List.mem_map_of_mem hx)
    have hread := mergeRules_eq_ok_iff.1 hmerge
    have hchecked := Cascade.discover_true_eq_ok_iff.2 ⟨hfiles, rules, hmerge⟩
    have hrules : rules ≠ [] := by
      rintro rfl
      exact hne (List.forall₂_nil_right_iff.1 hread)
    exact ⟨rules, .settings (Cascade.rules_eq_ok_iff.2 ⟨files, hchecked, hread⟩) hrules,
      forall₂_writes_of_readFrom hread⟩

theorem parses_of_ready {renamers : List Renamer} (h : List.Forall₂ Ready ruleTexts renamers) :
    ∀ t ∈ ruleTexts, ∃ rule, Rule.parse t = .ok rule := by
  induction h with
  | nil => exact List.forall_mem_nil _
  | cons ht _ ih =>
    obtain ⟨rule, hrule, -⟩ := ht
    exact List.forall_mem_cons.2 ⟨⟨rule, hrule⟩, ih⟩

theorem forall₂_ready_iff {renamers : List Renamer} (h : List.Forall₂ Writes ruleTexts rules) :
    List.Forall₂ Ready ruleTexts renamers ↔
      ∃ prepared, RuleSet.prepare rules = .ok prepared ∧
        prepared.map PreparedRule.renamer = renamers := by
  simp only [RuleSet.prepare_eq_ok_iff]
  induction h generalizing renamers with
  | nil =>
    simp only [List.forall₂_nil_left_iff, exists_eq_left, List.map_nil]
    exact eq_comm
  | @cons t r ts rs ht _ ih =>
    constructor
    · intro hready
      obtain ⟨renamer, others, ⟨rule, hrule, hrenamer⟩, hothers, rfl⟩ :=
        List.forall₂_cons_left_iff.1 hready
      obtain rfl := Except.ok.inj (hrule.symm.trans ht)
      obtain ⟨prepared, hprepared, rfl⟩ := ih.1 hothers
      have hfirst : r.prepare = .ok ⟨r.rule, renamer, r.origin⟩ :=
        SourcedRule.prepare_eq_ok_iff.2 ⟨rfl, hrenamer, rfl⟩
      exact ⟨_, .cons hfirst hprepared, rfl⟩
    · rintro ⟨_, hprepared, rfl⟩
      obtain ⟨first, others, hfirst, hothers, rfl⟩ := List.forall₂_cons_left_iff.1 hprepared
      have hrenamer := (SourcedRule.prepare_eq_ok_iff.1 hfirst).2.1
      exact .cons ⟨r.rule, ht, hrenamer⟩ (ih.2 ⟨others, hothers, rfl⟩)

section Renaming

variable {colored : Bool} {paths given : List Text}

theorem output_renamePaths (before : List Event) (prepared : List PreparedRule) :
    Prints (prepared.map PreparedRule.renamer) given
      (renamePaths before prepared given).output :=
  prints_replacements prepared given

theorem prints_of_prepare {prepared : List PreparedRule} (before : List Event)
    (hprepare : RuleSet.prepare rules = .ok prepared) (hpaths : Paths w paths given) :
    (renameWith w before rules paths).code = 0 ∧
      Prints (prepared.map PreparedRule.renamer) given
        (renameWith w before rules paths).output := by
  simp only [renameWith, result_prepareAll, hprepare]
  cases hpaths with
  | given hne =>
    rw [if_neg (by simpa using hne)]
    exact ⟨rfl, output_renamePaths _ _⟩
  | input ht =>
    rw [ht]
    exact ⟨rfl, output_renamePaths _ _⟩

theorem exists_of_code_renameWith {before : List Event}
    (h : (renameWith w before rules paths).code = 0) :
    ∃ prepared given, RuleSet.prepare rules = .ok prepared ∧ Paths w paths given := by
  simp only [renameWith, result_prepareAll] at h
  cases hprepare : RuleSet.prepare rules with
  | error e =>
    rw [hprepare] at h
    cases h
  | ok prepared =>
    rw [hprepare] at h
    cases paths with
    | cons path paths => exact ⟨prepared, _, rfl, .given (List.cons_ne_nil _ _)⟩
    | nil =>
      -- Only now is the input read, and nothing has been printed so far.
      cases hinput : w.input with
      | ok t => exact ⟨prepared, _, rfl, .input hinput⟩
      | error reason =>
        rw [hinput] at h
        cases h

theorem Loads.rename_eq (h : Loads w texts rules) (colored : Bool) (paths : List Text) :
    ∃ before, rename w colored texts paths = renameWith w before rules paths := by
  cases h with
  | given hne hparse =>
    refine ⟨[], ?_⟩
    rw [rename, if_neg (by simpa using hne), hparse]
  | settings hrules hne =>
    refine ⟨(Cascade.rules w.host w.directory).events, ?_⟩
    obtain ⟨r, rest, rfl⟩ := List.exists_cons_of_ne_nil hne
    simp only [rename, List.isEmpty_nil, if_true, hrules]

theorem exists_loads_of_code (h : (rename w colored texts paths).code = 0) :
    ∃ rules, Loads w texts rules := by
  rw [rename] at h
  split_ifs at h with hnone
  · obtain rfl := List.isEmpty_iff.1 hnone
    simp only at h
    split at h
    · cases h
    · cases h
    · cases h
    · next rules hne hrules => exact ⟨rules, .settings hrules hne⟩
  · split at h
    · cases h
    · next rules hparse => exact ⟨rules, .given (by simpa using hnone) hparse⟩

theorem prints_of_ready {ruleTexts : List Text} {renamers : List Renamer}
    (htexts : RuleTexts w texts ruleTexts) (hready : List.Forall₂ Ready ruleTexts renamers)
    (hpaths : Paths w paths given) (colored : Bool) :
    (rename w colored texts paths).code = 0 ∧
      Prints renamers given (rename w colored texts paths).output := by
  obtain ⟨rules, hloads, hwrites⟩ := htexts.exists_loads (parses_of_ready hready)
  obtain ⟨prepared, hprepare, rfl⟩ := (forall₂_ready_iff hwrites).1 hready
  obtain ⟨before, heq⟩ := hloads.rename_eq colored paths
  rw [heq]
  exact prints_of_prepare before hprepare hpaths

theorem code_rename_eq_zero_iff_prints :
    (rename w colored texts paths).code = 0 ↔
      ∃ ruleTexts renamers given, RuleTexts w texts ruleTexts ∧
        List.Forall₂ Ready ruleTexts renamers ∧ Paths w paths given ∧
        Prints renamers given (rename w colored texts paths).output := by
  constructor
  · intro hcode
    obtain ⟨rules, hloads⟩ := exists_loads_of_code hcode
    obtain ⟨ruleTexts, htexts, hwrites⟩ := hloads.exists_ruleTexts
    obtain ⟨before, heq⟩ := hloads.rename_eq colored paths
    rw [heq] at hcode ⊢
    obtain ⟨prepared, given, hprepare, hpaths⟩ := exists_of_code_renameWith hcode
    have hready := (forall₂_ready_iff hwrites).2 ⟨prepared, hprepare, rfl⟩
    have hprints := (prints_of_prepare before hprepare hpaths).2
    exact ⟨ruleTexts, _, given, htexts, hready, hpaths, hprints⟩
  · rintro ⟨ruleTexts, renamers, given, htexts, hready, hpaths, -⟩
    exact (prints_of_ready htexts hready hpaths colored).1

end Renaming

/-- A command succeeds, or it prints nothing and writes no file. Only the starter file is ever
written, if it is asked for, and over another one only if that is asked for too. Renaming takes its
rule texts and its paths from the arguments, succeeds just if the rules are ready and the paths can
be read, and then prints a line for each path that a rule replaces. -/
theorem commands_are_all_or_nothing {args : List Text} {i : Invocation}
    (h : Arguments.parse args = .ok i) (w : World) :
    ((run w i).code = 0 ∨
      (run w i).code = 1 ∧ (run w i).output = [] ∧ (run w i).written = none) ∧
    (∀ content, (run w i).written = some content → content = Settings.starter ∧
      ∃ overwrite, i.task = .starter overwrite ∧ "--init".toList ∈ args ∧
        ((w.host.files Cascade.fileName).isSome = true →
          overwrite = true ∧ "--force".toList ∈ args)) ∧
    ∀ texts paths, i.task = .rename texts paths → Arguments.Assigns args texts paths ∧
      ((run w i).code = 0 ↔
        ∃ ruleTexts renamers given, RuleTexts w texts ruleTexts ∧
          List.Forall₂ Ready ruleTexts renamers ∧ Paths w paths given ∧
          Prints renamers given (run w i).output) := by
  refine ⟨?_, fun content hwritten => ?_, fun texts paths htask => ?_⟩
  · rcases run_cases w i with honly | ⟨overwrite, output, -, hrun, -⟩
    · exact honly.code_cases
    · rw [hrun]
      exact .inl rfl
  · rcases run_cases w i with honly | ⟨overwrite, output, htask, hrun, hleave⟩
    · rw [honly.written_eq] at hwritten
      cases hwritten
    · rw [hrun] at hwritten
      obtain ⟨hinit, hforce⟩ := Arguments.mem_of_starter h htask
      refine ⟨(Option.some.inj hwritten).symm, overwrite, htask, hinit, fun hsome => ?_⟩
      exact ⟨hleave hsome, hforce (hleave hsome)⟩
  · refine ⟨Arguments.assigns_of_rename h htask, ?_⟩
    rw [run, htask]
    exact code_rename_eq_zero_iff_prints

def piped : World where
  host := {
    files := fun path => [(Cascade.fileName, Entry.file [])].lookup path
    environment := fun _ => none
    home := some "/h".toList }
  directory := []
  input := .ok "\x22p/x\x22\n\n z\n\x22\x22\nz\np/x".toList
  writeProblem := none
  isTerminal := false

theorem commands_are_all_or_nothing_piped :
    let args := ["-r".toList, "p => q".toList, "--rule=p ++".toList]
    let renamed : Invocation := ⟨.rename ["p => q".toList, "p ++".toList] [], .auto, 0⟩
    let started : Invocation := ⟨.starter true, .auto, 0⟩
    Arguments.parse args = .ok renamed ∧
    Arguments.Assigns args ["p => q".toList, "p ++".toList] [] ∧
    (run piped renamed).output = "p/x => q/x\np/x => q/x\n".toList ∧
    (∃ ruleTexts renamers given, RuleTexts piped ["p => q".toList, "p ++".toList] ruleTexts ∧
      List.Forall₂ Ready ruleTexts renamers ∧ Paths piped [] given ∧
      Prints renamers given (run piped renamed).output) ∧
    (run { piped with input := .error Entry.binaryReason } renamed).output = [] ∧
    Arguments.parse ["--init".toList, "--force".toList] = .ok started ∧
    (run piped started).written = some Settings.starter ∧
    "--force".toList ∈ ["--init".toList, "--force".toList] := by
  intro args renamed started
  have hrenamed : Arguments.parse args = .ok renamed := by decide +kernel
  have hstarted : Arguments.parse ["--init".toList, "--force".toList] = .ok started := by
    decide +kernel
  have hwritten : (run piped started).written = some Settings.starter := by rfl
  have hcode : (run piped renamed).code = 0 := by decide +kernel
  have hfails : (run { piped with input := .error Entry.binaryReason } renamed).code ≠ 0 := by
    decide +kernel
  obtain ⟨-, -, hrename⟩ := commands_are_all_or_nothing hrenamed piped
  obtain ⟨hfailure, -⟩ := commands_are_all_or_nothing hrenamed
    { piped with input := .error Entry.binaryReason }
  obtain ⟨-, hstarter, -⟩ := commands_are_all_or_nothing hstarted piped
  obtain ⟨-, overwrite, -, -, hforce⟩ := hstarter _ hwritten
  obtain ⟨hassigns, hprints⟩ := hrename _ _ rfl
  exact ⟨hrenamed, hassigns, by decide +kernel, hprints.1 hcode,
    (hfailure.resolve_left hfails).2.1, hstarted, hwritten, (hforce (by decide +kernel)).2⟩

end Reroute.Command
