import Reroute.Proofs.RuleChecks
import Reroute.Proofs.RuleSets

set_option autoImplicit false

namespace Reroute

def RuleEntry.replacement? (entry : RuleEntry) (path : Text) : Option Text :=
  entry.renamer?.bind fun renamer => renamer.replacement? path

structure PreparedFrom (x : Text × RuleEntry) (r : PreparedRule) : Prop where
  rule : Rule.parse x.2.text = .ok r.rule
  renamer : Renamer.ofRule r.rule = .ok r.renamer
  origin : r.origin = .file x.1

namespace PreparedFrom

variable {x : Text × RuleEntry} {r r' : PreparedRule}

theorem unique (h : PreparedFrom x r) (h' : PreparedFrom x r') : r = r' := by
  obtain ⟨rule, renamer, origin⟩ := r
  obtain ⟨rule', renamer', origin'⟩ := r'
  obtain rfl := Except.ok.inj (h.rule.symm.trans h'.rule)
  obtain rfl := Except.ok.inj (h.renamer.symm.trans h'.renamer)
  obtain rfl := h.origin.trans h'.origin.symm
  rfl

theorem replacement?_eq (h : PreparedFrom x r) (path : Text) :
    x.2.replacement? path = r.renamer.replacement? path := by
  rw [RuleEntry.replacement?, RuleEntry.renamer?, h.rule]
  change (Renamer.ofRule r.rule).toOption.bind _ = _
  rw [h.renamer]
  rfl

end PreparedFrom

theorem SourcedRule.prepare_eq_ok_iff {s : SourcedRule} {r : PreparedRule} :
    s.prepare = .ok r ↔ r.rule = s.rule ∧ Renamer.ofRule s.rule = .ok r.renamer ∧
      r.origin = s.origin := by
  obtain ⟨rule, renamer, origin⟩ := r
  rw [SourcedRule.prepare, bind_eq_ok_iff]
  constructor
  · rintro ⟨renamer', hrenamer, h⟩
    cases h
    exact ⟨rfl, hrenamer, rfl⟩
  · rintro ⟨rfl, hrenamer, rfl⟩
    exact ⟨renamer, hrenamer, rfl⟩

theorem preparedFrom_of_prepare {entries : List (Text × RuleEntry)} {rules : List SourcedRule}
    {prepared : List PreparedRule} (hread : List.Forall₂ ReadFrom entries rules)
    (hprepare : RuleSet.prepare rules = .ok prepared) :
    List.Forall₂ PreparedFrom entries prepared := by
  rw [RuleSet.prepare_eq_ok_iff] at hprepare
  induction hread generalizing prepared with
  | nil =>
    obtain rfl := List.forall₂_nil_left_iff.1 hprepare
    exact .nil
  | cons hx _ ih =>
    obtain ⟨r, rest, hr, hrest, rfl⟩ := List.forall₂_cons_left_iff.1 hprepare
    obtain ⟨hrule, hrenamer, horigin⟩ := SourcedRule.prepare_eq_ok_iff.1 hr
    obtain ⟨hparse, hfile⟩ := hx
    exact .cons ⟨hrule ▸ hparse, hrule ▸ hrenamer, horigin.trans hfile⟩ (ih hrest)

/-- What becomes of a path if the first entry with a replacement for it decides. -/
def FirstHit (entries : List (Text × RuleEntry)) (path : Text) (hit : RuleSet.Hit) : Prop :=
  ∃ before x after, entries = before ++ x :: after ∧
    (∀ y ∈ before, y.2.replacement? path = none) ∧ PreparedFrom x hit.rule ∧
    x.2.replacement? path = some hit.replacement ∧ hit.index = before.length

theorem findFrom_eq_some_iff {entries : List (Text × RuleEntry)} {prepared : List PreparedRule}
    (h : List.Forall₂ PreparedFrom entries prepared) {index : Nat} {path : Text}
    {hit : RuleSet.Hit} : RuleSet.findFrom index prepared path = some hit ↔
      ∃ before x after, entries = before ++ x :: after ∧
        (∀ y ∈ before, y.2.replacement? path = none) ∧ PreparedFrom x hit.rule ∧
        x.2.replacement? path = some hit.replacement ∧ hit.index = index + before.length := by
  induction h generalizing index with
  | nil => simp [RuleSet.findFrom]
  | @cons x r entries prepared hx _ ih =>
    rw [RuleSet.findFrom, ← hx.replacement?_eq]
    cases htarget : x.2.replacement? path with
    | some target =>
      -- Nothing can stand in front of this entry, as it has a replacement itself.
      constructor
      · intro hhit
        obtain rfl := Option.some.inj hhit
        exact ⟨[], x, entries, rfl, by simp, hx, htarget, rfl⟩
      · rintro ⟨_ | ⟨y, before⟩, x', after, heq, hbefore, hx', htarget', hindex⟩
        · obtain ⟨rfl, rfl⟩ := List.cons.inj heq
          obtain ⟨index', rule, replacement⟩ := hit
          obtain rfl := hx.unique hx'
          obtain rfl := Option.some.inj (htarget.symm.trans htarget')
          obtain rfl : index' = index := hindex
          rfl
        · obtain ⟨rfl, rfl⟩ := List.cons.inj heq
          rw [hbefore x List.mem_cons_self] at htarget
          cases htarget
    | none =>
      -- The decision is made behind this entry, which is one more in front of it.
      simp only [ih]
      constructor
      · rintro ⟨before, x', after, rfl, hbefore, hx', htarget', hindex⟩
        refine ⟨x :: before, x', after, rfl, List.forall_mem_cons.2 ⟨htarget, hbefore⟩, hx',
          htarget', ?_⟩
        rw [hindex, List.length_cons]
        omega
      · rintro ⟨_ | ⟨y, before⟩, x', after, heq, hbefore, hx', htarget', hindex⟩
        · obtain ⟨rfl, rfl⟩ := List.cons.inj heq
          rw [htarget] at htarget'
          cases htarget'
        · obtain ⟨rfl, rfl⟩ := List.cons.inj heq
          refine ⟨before, x', after, rfl, (List.forall_mem_cons.1 hbefore).2, hx', htarget', ?_⟩
          rw [hindex, List.length_cons]
          omega

theorem find?_eq_some_iff {entries : List (Text × RuleEntry)} {prepared : List PreparedRule}
    (h : List.Forall₂ PreparedFrom entries prepared) {path : Text} {hit : RuleSet.Hit} :
    RuleSet.find? prepared path = some hit ↔ FirstHit entries path hit := by
  simp only [RuleSet.find?, findFrom_eq_some_iff h, FirstHit, Nat.zero_add]

theorem find?_eq_none_iff_entries {entries : List (Text × RuleEntry)}
    {prepared : List PreparedRule} (h : List.Forall₂ PreparedFrom entries prepared) {path : Text} :
    RuleSet.find? prepared path = none ↔ ∀ x ∈ entries, x.2.replacement? path = none := by
  rw [RuleSet.find?_eq_none_iff]
  induction h with
  | nil => simp
  | cons hx _ ih => rw [List.forall_mem_cons, List.forall_mem_cons, ih, hx.replacement?_eq]

theorem FirstHit.append {entries : List (Text × RuleEntry)} {path : Text} {hit : RuleSet.Hit}
    (h : FirstHit entries path hit) (more : List (Text × RuleEntry)) :
    FirstHit (entries ++ more) path hit := by
  obtain ⟨before, x, after, rfl, hx⟩ := h
  exact ⟨before, x, after ++ more, by simp, hx⟩

theorem FirstHit.of_append {entries more : List (Text × RuleEntry)} {path : Text}
    {hit : RuleSet.Hit} (h : FirstHit (entries ++ more) path hit)
    (hmore : ∀ x ∈ more, hit.rule.origin ≠ .file x.1) : FirstHit entries path hit := by
  obtain ⟨before, x, after, heq, hbefore, hx, hrest⟩ := h
  rcases List.append_eq_append_iff.1 heq with ⟨skipped, rfl, rfl⟩ | ⟨tail, rfl, htail⟩
  · exact absurd hx.origin (hmore x (by simp))
  · cases tail with
    | nil =>
      obtain rfl : x :: after = more := htail
      exact absurd hx.origin (hmore x List.mem_cons_self)
    | cons y tail =>
      obtain ⟨rfl, rfl⟩ := List.cons.inj htail
      exact ⟨before, x, tail, rfl, hbefore, hx, hrest⟩

namespace Cascade

theorem rules_eq_ok_iff {host : Host} {start : Text} {rules : List SourcedRule} :
    (Cascade.rules host start).result = .ok rules ↔
      ∃ files, (discover host true start).result = .ok files ∧
        List.Forall₂ ReadFrom (ruleEntries files) rules := by
  simp only [Cascade.rules, Traced.result_bind, Traced.result_ofExcept, bind_eq_ok_iff,
    mergeRules_eq_ok_iff]

theorem exists_ascent_eq {files : FileSystem} {below : List Text} (dir : Text)
    (above : List Text) (hbelow : ∀ d ∈ below, isRoot files (fileIn d) = false) :
    ∃ more, ascent files (below ++ dir :: above) = (below ++ [dir]).map fileIn ++ more := by
  have hstops : ∀ path ∈ below.map fileIn, isRoot files path = false := List.forall_mem_map.2 hbelow
  rw [ascent, List.map_append, upTo_append_of_none hstops, List.map_cons, upTo_cons,
    List.map_append]
  exact ⟨_, List.append_cons _ _ _⟩

/-- The settings found up to a directory are those that can be loaded there. -/
theorem exists_append_of_discover {host : Host} {checked : Bool} {start : Text}
    {found : List LoadedSettings} (hfound : (discover host checked start).result = .ok found)
    {below above : List Text} {dir : Text}
    (hdirs : FilePath.withParents start = below ++ dir :: above)
    (hbelow : ∀ d ∈ below, isRoot host.files (fileIn d) = false) :
    ∃ near rest, found = near ++ rest ∧
      ((below ++ [dir]).map fileIn).filterMap (load? host.files checked) = near.map .ok := by
  rw [result_discover, collect_eq_ok_iff, attempts, hdirs] at hfound
  obtain ⟨more, hmore⟩ := exists_ascent_eq dir above hbelow
  rw [hmore, List.filterMap_append, List.append_assoc] at hfound
  obtain ⟨near, rest, rfl, hnear, -⟩ := List.append_eq_map_iff.1 hfound
  exact ⟨near, rest, rfl, hnear.symm⟩

theorem load?_of_mem_discover {host : Host} {checked : Bool} {start : Text}
    {found : List LoadedSettings} (hfound : (discover host checked start).result = .ok found)
    {loaded : LoadedSettings} (hloaded : loaded ∈ found) :
    load? host.files checked loaded.path = some (.ok loaded) := by
  rw [result_discover, collect_eq_ok_iff] at hfound
  have hmem : .ok loaded ∈ attempts host checked start := hfound ▸ List.mem_map_of_mem hloaded
  have hload : ∃ path, load? host.files checked path = some (.ok loaded) := by
    rcases List.mem_append.1 hmem with hnear | hbehind
    · obtain ⟨path, -, hload⟩ := List.mem_filterMap.1 hnear
      exact ⟨path, hload⟩
    · rw [homeAttempts] at hbehind
      cases hhome : host.home with
      | none =>
        simp only [hhome] at hbehind
        split_ifs at hbehind <;> simp at hbehind
      | some home =>
        simp only [hhome] at hbehind
        obtain ⟨path, -, hload⟩ := List.mem_filterMap.1 hbehind
        exact ⟨path, hload⟩
  obtain ⟨path, hload⟩ := hload
  rwa [path_of_load? hload]

theorem ne_of_mem_ruleEntries {host : Host} {checked : Bool} {start : Text}
    {near rest : List LoadedSettings}
    (hfound : (discover host checked start).result = .ok (near ++ rest)) {paths : List Text}
    (hnear : paths.filterMap (load? host.files checked) = near.map .ok) {path : Text}
    (hpath : path ∈ paths) : ∀ x ∈ ruleEntries rest, x.1 ≠ path := by
  rintro x hx rfl
  obtain ⟨loaded, hloaded, hentry⟩ := List.mem_flatMap.1 hx
  obtain ⟨entry, -, rfl⟩ := List.mem_map.1 hentry
  have hload := load?_of_mem_discover hfound (List.mem_append_right near hloaded)
  have hmem : Except.ok loaded ∈ near.map (Except.ok (ε := SettingsError)) :=
    hnear ▸ List.mem_filterMap.2 ⟨loaded.path, hpath, hload⟩
  obtain ⟨loaded', hnear', hsame⟩ := List.mem_map.1 hmem
  obtain rfl := Except.ok.inj hsame
  have hnew := (List.pairwise_append.1 (pairwise_of_discover hfound)).2.2 _ hnear' _ hloaded
  rw [FilePath.same_self] at hnew
  cases hnew

theorem isRoot_congr {files files' : FileSystem} {path : Text} (h : files' path = files path) :
    isRoot files' path = isRoot files path := by
  rw [isRoot, isRoot, load?, load?, h]

theorem filterMap_load?_congr {files files' : FileSystem} {checked : Bool} {paths : List Text}
    (h : ∀ path ∈ paths, files' path = files path) :
    paths.filterMap (load? files' checked) = paths.filterMap (load? files checked) :=
  List.filterMap_congr fun path hpath => by rw [load?, load?, h path hpath]

/-- The first entry of the cascade with a replacement for a path decides. If it is written in the
file of a directory met on the way up, it decides on every machine where the files up to there are
the same. -/
theorem inner_rules_shadow_outer {host : Host} {start : Text} {rules : List SourcedRule}
    {prepared : List PreparedRule} (hrules : (Cascade.rules host start).result = .ok rules)
    (hprepare : RuleSet.prepare rules = .ok prepared) :
    ∃ files, (discover host true start).result = .ok files ∧ ∀ path,
      (∀ hit, RuleSet.find? prepared path = some hit ↔ FirstHit (ruleEntries files) path hit) ∧
      (RuleSet.find? prepared path = none ↔
        ∀ x ∈ ruleEntries files, x.2.replacement? path = none) ∧
      ∀ hit, RuleSet.find? prepared path = some hit →
        ∀ below dir above, FilePath.withParents start = below ++ dir :: above →
          (∀ d ∈ below, isRoot host.files (fileIn d) = false) →
          hit.rule.origin = .file (fileIn dir) →
          ∀ host' rules' prepared',
            (∀ d ∈ below ++ [dir], host'.files (fileIn d) = host.files (fileIn d)) →
            (Cascade.rules host' start).result = .ok rules' →
            RuleSet.prepare rules' = .ok prepared' →
            RuleSet.find? prepared' path = some hit := by
  obtain ⟨files, hfiles, hread⟩ := rules_eq_ok_iff.1 hrules
  have hentries := preparedFrom_of_prepare hread hprepare
  refine ⟨files, hfiles, fun path => ⟨fun hit => find?_eq_some_iff hentries,
    find?_eq_none_iff_entries hentries, ?_⟩⟩
  intro hit hhit below dir above hdirs hbelow horigin host' rules' prepared' hsame hrules' hprepare'
  obtain ⟨near, rest, rfl, hnear⟩ := exists_append_of_discover hfiles hdirs hbelow
  have hfirst : FirstHit (ruleEntries near) path hit := by
    have hall := (find?_eq_some_iff hentries).1 hhit
    rw [ruleEntries_append] at hall
    refine hall.of_append fun x hx hfile => ?_
    have hmem : fileIn dir ∈ (below ++ [dir]).map fileIn :=
      List.mem_map_of_mem (List.mem_append_right _ (List.mem_singleton_self dir))
    have hne := ne_of_mem_ruleEntries hfiles hnear hmem x hx
    exact hne (Origin.file.inj (hfile.symm.trans horigin))
  -- The other machine finds the same settings up to the directory.
  obtain ⟨files', hfiles', hread'⟩ := rules_eq_ok_iff.1 hrules'
  have hbelow' : ∀ d ∈ below, isRoot host'.files (fileIn d) = false := fun d hd => by
    rw [isRoot_congr (hsame d (List.mem_append_left _ hd)), hbelow d hd]
  obtain ⟨near', rest', rfl, hnear'⟩ := exists_append_of_discover hfiles' hdirs hbelow'
  rw [filterMap_load?_congr (List.forall_mem_map.2 hsame), hnear] at hnear'
  obtain rfl : near = near' := (List.map_injective_iff.2 fun _ _ => Except.ok.inj) hnear'
  refine (find?_eq_some_iff (preparedFrom_of_prepare hread' hprepare')).2 ?_
  rw [ruleEntries_append]
  exact hfirst.append _

def single : Host where
  files path :=
    [("a/.import-rename.toml".toList, Entry.file "rules = [['p => q', '']]".toList)].lookup path
  environment _ := none
  home := some "/h".toList

def outnumbered : Host :=
  { single with
    files := fun path =>
      if path = ".import-rename.toml".toList then
        some (.file "root = true\nrules = [['p => r', '']]".toList)
      else single.files path }

theorem inner_rules_shadow_outer_outnumbered :
    let rule : SourcedRule :=
      ⟨.replace "p".toList "q".toList, .file "a/.import-rename.toml".toList⟩
    let outer : SourcedRule :=
      ⟨.replace "p".toList "r".toList, .file ".import-rename.toml".toList⟩
    (Cascade.rules single "a".toList).result = .ok [rule] ∧
    (Cascade.rules outnumbered "a".toList).result = .ok [rule, outer] ∧
    ∃ prepared prepared' hit, RuleSet.prepare [rule] = .ok prepared ∧
      RuleSet.prepare [rule, outer] = .ok prepared' ∧ hit.replacement = "q/x".toList ∧
      RuleSet.find? prepared "p/x".toList = some hit ∧
      RuleSet.find? prepared' "p/x".toList = some hit := by
  intro rule outer
  have hrules : (Cascade.rules single "a".toList).result = .ok [rule] := by decide +kernel
  have hrules' : (Cascade.rules outnumbered "a".toList).result = .ok [rule, outer] := by
    decide +kernel
  obtain ⟨files, -, hfind⟩ := inner_rules_shadow_outer hrules rfl
  obtain ⟨-, -, hshadow⟩ := hfind "p/x".toList
  refine ⟨hrules, hrules', _, _, ⟨0, ⟨rule.rule, .leading ⟨"p".toList, "q".toList⟩, rule.origin⟩,
    "q/x".toList⟩, rfl, rfl, rfl, rfl, ?_⟩
  refine hshadow _ rfl [] "a".toList [[]] (by decide +kernel) (by simp) (by decide +kernel)
    outnumbered _ _ ?_ hrules' rfl
  decide +kernel

end Cascade

end Reroute
