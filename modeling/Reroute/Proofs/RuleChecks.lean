import Reroute.Proofs.CascadeReads

set_option autoImplicit false

namespace Reroute

def ruleEntries (files : List LoadedSettings) : List (Text × RuleEntry) :=
  files.flatMap fun loaded => loaded.settings.entries.map fun entry => (loaded.path, entry)

def RuleEntry.Parses (entry : RuleEntry) : Prop :=
  ∃ rule, Rule.parse entry.text = .ok rule

def RuleEntry.renamer? (entry : RuleEntry) : Option Renamer :=
  (Rule.parse entry.text).toOption.bind fun rule => (Renamer.ofRule rule).toOption

/-- The error is that of the first entry whose text is not a rule. -/
def FirstInvalid (entries : List (Text × RuleEntry)) (e : SettingsError) : Prop :=
  ∃ before path entry after cause, entries = before ++ (path, entry) :: after ∧
    (∀ x ∈ before, x.2.Parses) ∧ Rule.parse entry.text = .error cause ∧
    e = .invalidRule entry.text path cause

def ReadFrom (x : Text × RuleEntry) (r : SourcedRule) : Prop :=
  Rule.parse x.2.text = .ok r.rule ∧ r.origin = .file x.1

theorem ruleEntries_cons (loaded : LoadedSettings) (files : List LoadedSettings) :
    ruleEntries (loaded :: files) =
      loaded.settings.entries.map (fun entry => (loaded.path, entry)) ++ ruleEntries files :=
  List.flatMap_cons

theorem ruleEntries_append (files files' : List LoadedSettings) :
    ruleEntries (files ++ files') = ruleEntries files ++ ruleEntries files' :=
  List.flatMap_append

def sourced (x : Text × RuleEntry) : Except SettingsError SourcedRule :=
  (⟨·, .file x.1⟩) <$> x.2.rule x.1

theorem sourced_eq_ok_iff {x : Text × RuleEntry} {r : SourcedRule} :
    sourced x = .ok r ↔ ReadFrom x r := by
  rw [sourced, map_eq_ok_iff, RuleEntry.rule, ReadFrom]
  obtain ⟨rule, origin⟩ := r
  cases Rule.parse x.2.text with
  | error e => simp
  | ok rule' => simp [eq_comm]

theorem sourced_eq_error_iff {x : Text × RuleEntry} {e : SettingsError} :
    sourced x = .error e ↔
      ∃ cause, Rule.parse x.2.text = .error cause ∧ e = .invalidRule x.2.text x.1 cause := by
  rw [sourced, map_eq_error_iff, RuleEntry.rule]
  cases Rule.parse x.2.text with
  | error cause => simp [eq_comm]
  | ok rule => simp

theorem exists_sourced_eq_ok_iff {x : Text × RuleEntry} :
    (∃ r, sourced x = .ok r) ↔ x.2.Parses := by
  simp only [sourced_eq_ok_iff]
  exact ⟨fun ⟨r, hparse, _⟩ => ⟨r.rule, hparse⟩, fun ⟨rule, hparse⟩ => ⟨⟨rule, _⟩, hparse, rfl⟩⟩

theorem LoadedSettings.rules_eq (loaded : LoadedSettings) :
    loaded.rules =
      (loaded.settings.entries.map fun entry => (loaded.path, entry)).mapM sourced := by
  rw [List.mapM_map]
  rfl

theorem mergeRules_cons (loaded : LoadedSettings) (files : List LoadedSettings) :
    mergeRules (loaded :: files) =
      loaded.rules >>= fun rules => (rules ++ ·) <$> mergeRules files := by
  rw [mergeRules, mergeRules, List.mapM_cons]
  cases loaded.rules with
  | error e => rfl
  | ok rules => cases files.mapM LoadedSettings.rules <;> rfl

theorem mergeRules_eq (files : List LoadedSettings) :
    mergeRules files = (ruleEntries files).mapM sourced := by
  induction files with
  | nil => rfl
  | cons loaded files ih =>
    rw [mergeRules_cons, ruleEntries_cons, List.mapM_append, loaded.rules_eq, ih]
    rfl

theorem mergeRules_eq_ok_iff {files : List LoadedSettings} {rules : List SourcedRule} :
    mergeRules files = .ok rules ↔ List.Forall₂ ReadFrom (ruleEntries files) rules := by
  simp only [mergeRules_eq, mapM_eq_ok_iff, sourced_eq_ok_iff]

theorem mergeRules_eq_error_iff {files : List LoadedSettings} {e : SettingsError} :
    mergeRules files = .error e ↔ FirstInvalid (ruleEntries files) e := by
  simp only [mergeRules_eq, mapM_eq_error_iff, exists_sourced_eq_ok_iff, sourced_eq_error_iff,
    FirstInvalid]
  constructor
  · rintro ⟨before, ⟨path, entry⟩, after, heq, hbefore, cause, hcause, rfl⟩
    exact ⟨before, path, entry, after, cause, heq, hbefore, hcause, rfl⟩
  · rintro ⟨before, path, entry, after, cause, heq, hbefore, hcause, rfl⟩
    exact ⟨before, (path, entry), after, heq, hbefore, cause, hcause, rfl⟩

theorem exists_mergeRules_eq_ok_iff {files : List LoadedSettings} :
    (∃ rules, mergeRules files = .ok rules) ↔ ∀ x ∈ ruleEntries files, x.2.Parses := by
  simp only [mergeRules_eq, exists_mapM_eq_ok_iff, exists_sourced_eq_ok_iff]

theorem exists_firstInvalid {files : List LoadedSettings}
    (h : ∃ x ∈ ruleEntries files, ¬ x.2.Parses) :
    ∃ e, FirstInvalid (ruleEntries files) e ∧ mergeRules files = .error e := by
  obtain ⟨x, hx, hparses⟩ := h
  cases hmerge : mergeRules files with
  | ok rules => exact absurd (exists_mergeRules_eq_ok_iff.1 ⟨rules, hmerge⟩ x hx) hparses
  | error e => exact ⟨e, mergeRules_eq_error_iff.1 hmerge, rfl⟩

namespace Cascade

theorem check_eq (path : Text) (settings : Settings) :
    settings.check path = (fun _ => ()) <$> (LoadedSettings.mk path settings).rules := by
  rw [Settings.check, LoadedSettings.rules_eq]
  generalize settings.entries = entries
  induction entries with
  | nil => rfl
  | cons entry entries ih =>
    rw [List.forM, List.map_cons]
    cases h : entry.rule path with
    | error e =>
      have hfirst : sourced (path, entry) = .error e := map_eq_error_iff.2 h
      rw [mapM_cons_of_error hfirst]
      rfl
    | ok rule =>
      have hfirst : sourced (path, entry) = .ok ⟨rule, .file path⟩ := map_eq_ok_iff.2 ⟨rule, h, rfl⟩
      rw [mapM_cons_of_ok hfirst, Functor.map_map]
      exact ih

theorem verified_eq (loaded : LoadedSettings) :
    verified loaded = (fun _ => loaded) <$> loaded.rules := by
  rw [verified, check_eq]
  cases loaded.rules <;> rfl

theorem mapM_verified (files : List LoadedSettings) :
    files.mapM verified = (fun _ => files) <$> mergeRules files := by
  induction files with
  | nil => rfl
  | cons loaded files ih =>
    rw [List.mapM_cons, verified_eq, mergeRules_cons, ih]
    cases loaded.rules with
    | error e => rfl
    | ok rules => cases mergeRules files <;> rfl

theorem attempts_true (host : Host) (start : Text) :
    attempts host true start = (attempts host false start).map fun r => r >>= verified := by
  have hloads : ∀ paths : List Text, paths.filterMap (load? host.files true) =
      (paths.filterMap (load? host.files false)).map fun r => r >>= verified := by
    intro paths
    rw [List.map_filterMap]
    exact congrArg (List.filterMap · paths) (funext (load?_true host.files))
  simp only [attempts, homeAttempts, List.map_append, hloads]
  cases host.home with
  | some home => rfl
  | none => split_ifs <;> rfl

theorem result_discover_of_ok {host : Host} {start : Text} {files : List LoadedSettings}
    (h : (discover host false start).result = .ok files) :
    (discover host true start).result = (fun _ => files) <$> mergeRules files := by
  rw [result_discover, collect_eq_ok_iff] at h
  rw [result_discover, attempts_true, h, List.map_map, List.mapM_map]
  exact mapM_verified files

theorem result_discover_append {host : Host} {start : Text} {found : List LoadedSettings}
    {rest : List (Except SettingsError LoadedSettings)}
    (h : attempts host false start = found.map .ok ++ rest) :
    (discover host true start).result = mergeRules found >>= fun _ =>
      (found ++ ·) <$> (rest.map fun r => r >>= verified).mapM id := by
  rw [result_discover, attempts_true, h, List.map_append, List.map_map, List.mapM_append,
    List.mapM_map]
  change (found.mapM verified >>= fun files => _) = _
  rw [mapM_verified]
  cases mergeRules found with
  | error e => rfl
  | ok rules => cases (rest.map fun r => r >>= verified).mapM id <;> rfl

theorem result_discover_of_error {host : Host} {start : Text} {found : List LoadedSettings}
    {e : SettingsError} {rest : List (Except SettingsError LoadedSettings)}
    (h : attempts host false start = found.map .ok ++ .error e :: rest) :
    (discover host true start).result = mergeRules found >>= fun _ => .error e := by
  -- What is behind the failure is not reached by either search.
  rw [result_discover_append h]
  rfl

theorem result_discover_of_invalid {host : Host} {start : Text} {found : List LoadedSettings}
    {rest : List (Except SettingsError LoadedSettings)} {e : SettingsError}
    (h : attempts host false start = found.map .ok ++ rest) (hmerge : mergeRules found = .error e) :
    (discover host true start).result = .error e := by
  rw [result_discover_append h, hmerge]
  rfl

theorem discover_true_eq_ok_iff {host : Host} {start : Text} {files : List LoadedSettings} :
    (discover host true start).result = .ok files ↔
      (discover host false start).result = .ok files ∧
        ∃ rules, mergeRules files = .ok rules := by
  cases hplain : (discover host false start).result with
  | ok found =>
    rw [result_discover_of_ok hplain, map_eq_ok_iff]
    constructor
    · rintro ⟨rules, hrules, rfl⟩
      exact ⟨rfl, rules, hrules⟩
    · rintro ⟨hfiles, rules, hrules⟩
      obtain rfl := Except.ok.inj hfiles
      exact ⟨rules, hrules, rfl⟩
  | error e =>
    rw [result_discover, collect_eq_error_iff] at hplain
    obtain ⟨found, rest, hattempts⟩ := hplain
    rw [result_discover_of_error hattempts, bind_eq_ok_iff]
    constructor
    · rintro ⟨_, -, h⟩
      cases h
    · rintro ⟨h, -⟩
      cases h

/-- The search that checks rules gives what the other one gives, or the error of the first rule
text that cannot be parsed, whichever comes first on the way. -/
theorem checked_discovery (host : Host) (start : Text) :
    (∀ files, (discover host true start).result = .ok files ↔
      (discover host false start).result = .ok files ∧
        ∀ x ∈ ruleEntries files, x.2.Parses) ∧
    (∀ files, (discover host true start).result = .ok files →
      ∃ rules, mergeRules files = .ok rules ∧
        List.Forall₂ ReadFrom (ruleEntries files) rules) ∧
    (∀ files, (discover host false start).result = .ok files →
      (∃ x ∈ ruleEntries files, ¬ x.2.Parses) →
      ∃ e, FirstInvalid (ruleEntries files) e ∧ (discover host true start).result = .error e) ∧
    ∀ e, (discover host false start).result = .error e →
      ∃ found rest, attempts host false start = found.map .ok ++ .error e :: rest ∧
        ((∀ x ∈ ruleEntries found, x.2.Parses) → (discover host true start).result = .error e) ∧
        ((∃ x ∈ ruleEntries found, ¬ x.2.Parses) →
          ∃ e', FirstInvalid (ruleEntries found) e' ∧
            (discover host true start).result = .error e') := by
  refine ⟨fun files => ?_, fun files h => ?_, fun files h hinvalid => ?_, fun e h => ?_⟩
  · rw [discover_true_eq_ok_iff, exists_mergeRules_eq_ok_iff]
  · obtain ⟨-, rules, hrules⟩ := discover_true_eq_ok_iff.1 h
    exact ⟨rules, hrules, mergeRules_eq_ok_iff.1 hrules⟩
  · obtain ⟨e, he, hmerge⟩ := exists_firstInvalid hinvalid
    rw [result_discover_of_ok h, hmerge]
    exact ⟨e, he, rfl⟩
  · rw [result_discover, collect_eq_error_iff] at h
    obtain ⟨found, rest, hattempts⟩ := h
    rw [result_discover_of_error hattempts]
    refine ⟨found, rest, hattempts, fun hparses => ?_, fun hinvalid => ?_⟩
    · obtain ⟨rules, hrules⟩ := exists_mergeRules_eq_ok_iff.2 hparses
      rw [hrules]
      rfl
    · obtain ⟨e', he', hmerge⟩ := exists_firstInvalid hinvalid
      rw [hmerge]
      exact ⟨e', he', rfl⟩

def doublyBroken : Host where
  files path :=
    [("a/.import-rename.toml".toList, Entry.file "rules = [['p --x', '']]".toList),
      (".import-rename.toml".toList, .binary)].lookup path
  environment _ := none
  home := none

theorem not_parses_dashes : ¬ (RuleEntry.mk "p --x".toList (some [])).Parses := by
  have hparse : Rule.parse "p --x".toList =
      .error ⟨.operatorExpected, ⟨"p --x".toList, 2, 2, 0⟩⟩ := by rfl
  rintro ⟨rule, hrule⟩
  cases hparse.symm.trans hrule

theorem checked_discovery_doublyBroken :
    (discover doublyBroken false "a".toList).result =
      .error (.unreadable ".import-rename.toml".toList Entry.binaryReason) ∧
    ∃ e, FirstInvalid [("a/.import-rename.toml".toList, ⟨"p --x".toList, some []⟩)] e ∧
      (discover doublyBroken true "a".toList).result = .error e := by
  have hplain : (discover doublyBroken false "a".toList).result =
      .error (.unreadable ".import-rename.toml".toList Entry.binaryReason) := by decide +kernel
  have hattempts : attempts doublyBroken false "a".toList =
      [.ok ⟨"a/.import-rename.toml".toList, ⟨false, none, [⟨"p --x".toList, some []⟩]⟩⟩,
        .error (.unreadable ".import-rename.toml".toList Entry.binaryReason), .error .noHome] := by
    decide +kernel
  obtain ⟨-, -, -, hfailure⟩ := checked_discovery doublyBroken "a".toList
  obtain ⟨found, rest, hfound, -, hinvalid⟩ := hfailure _ hplain
  obtain rfl : found =
      [⟨"a/.import-rename.toml".toList, ⟨false, none, [⟨"p --x".toList, some []⟩]⟩⟩] := by
    rw [hattempts] at hfound
    rcases found with _ | ⟨first, _ | ⟨second, found⟩⟩ <;> simp at hfound ⊢
    exact hfound.1.symm
  exact ⟨hplain, hinvalid ⟨_, List.mem_singleton_self _, not_parses_dashes⟩⟩

end Cascade

end Reroute
