import Reroute.Proofs.CascadeOrder

set_option autoImplicit false

namespace Reroute.Cascade

theorem depth_fileIn (dir : Text) : FilePath.depth (fileIn dir) = FilePath.depth dir + 1 :=
  FilePath.depth_join dir (by decide) (by decide)

theorem pairwise_ascent (files : FileSystem) (start : Text) :
    (ascent files (FilePath.withParents start)).Pairwise
      fun p q => FilePath.same p q = false := by
  have hway := (FilePath.wayUp_withParents start).depth_lt
  refine List.Pairwise.sublist (List.take_sublist _ _) (List.pairwise_map.2 ?_)
  refine hway.imp fun {dir above} hlt => Bool.eq_false_iff.2 fun hsame => ?_
  have hdepth := FilePath.depth_eq_of_same hsame
  rw [depth_fileIn, depth_fileIn] at hdepth
  omega

theorem paths_of_loads {files : FileSystem} {checked : Bool} {paths : List Text}
    {found : List LoadedSettings} (h : paths.filterMap (load? files checked) = found.map .ok) :
    found.map LoadedSettings.path = paths.filter fun path => (files path).isSome := by
  induction paths generalizing found with
  | nil =>
    rw [List.map_eq_nil_iff.1 h.symm]
    rfl
  | cons path paths ih =>
    rcases loads_cons_iff.1 h with ⟨hload, hrest⟩ | ⟨loaded, rest, rfl, hload, hrest⟩
    · rw [load?, Option.map_eq_none_iff] at hload
      rw [List.filter_cons_of_neg (by simp [hload])]
      exact ih hrest
    · obtain ⟨entry, hentry, -⟩ := Option.map_eq_some_iff.1 hload
      rw [List.filter_cons_of_pos (by simp [hentry]), List.map_cons, path_of_load? hload]
      exact congrArg _ (ih hrest)

theorem homeAttempts_eq_map_ok {host : Host} {checked : Bool} {found last : List LoadedSettings}
    (h : homeAttempts host checked found = last.map .ok) : last = [] ∨
      ∃ home loaded, last = [loaded] ∧ load? host.files checked (fileIn home) = some (.ok loaded) ∧
        ∀ before ∈ found, FilePath.same before.path (fileIn home) = false := by
  rw [homeAttempts] at h
  cases hhome : host.home with
  | none =>
    simp only [hhome] at h
    split_ifs at h
    · exact .inl (List.map_eq_nil_iff.1 h.symm)
    · obtain ⟨_, _, -, herror, -⟩ := List.map_eq_cons_iff.1 h.symm
      cases herror
  | some home =>
    simp only [hhome, homePaths] at h
    split_ifs at h with hskip
    · exact .inl (List.map_eq_nil_iff.1 h.symm)
    · cases hload : load? host.files checked (fileIn home) with
      | none =>
        rw [List.filterMap_cons_none hload] at h
        exact .inl (List.map_eq_nil_iff.1 h.symm)
      | some r =>
        rw [List.filterMap_cons_some hload] at h
        obtain ⟨loaded, rest, rfl, rfl, hrest⟩ := List.map_eq_cons_iff.1 h.symm
        obtain rfl := List.map_eq_nil_iff.1 hrest
        simp only [Bool.or_eq_true, not_or, Bool.not_eq_true] at hskip
        exact .inr ⟨home, loaded, rfl, hload, fun before hbefore => by
          simpa using List.any_eq_false.1 hskip.2 before hbefore⟩

theorem pairwise_of_discover {host : Host} {checked : Bool} {start : Text}
    {found : List LoadedSettings} (h : (discover host checked start).result = .ok found) :
    found.Pairwise fun a b => FilePath.same a.path b.path = false := by
  rw [result_discover, collect_eq_ok_iff, attempts] at h
  obtain ⟨near, last, rfl, hnear, hlast⟩ := List.append_eq_map_iff.1 h
  have hpaths : (near.map LoadedSettings.path).Pairwise fun p q => FilePath.same p q = false := by
    rw [paths_of_loads hnear.symm]
    exact (pairwise_ascent host.files start).sublist List.filter_sublist
  rw [listed_eq hnear.symm] at hlast
  rcases homeAttempts_eq_map_ok hlast.symm with rfl | ⟨home, loaded, rfl, hload, hnew⟩
  · rw [List.append_nil]
    exact List.pairwise_map.1 hpaths
  · refine List.pairwise_append.2
      ⟨List.pairwise_map.1 hpaths, List.pairwise_singleton _ _,
        fun before hbefore after hafter => ?_⟩
    obtain rfl := List.mem_singleton.1 hafter
    rw [path_of_load? hload]
    exact hnew before hbefore

def fails (files : FileSystem) (checked : Bool) (path : Text) : Bool :=
  match load? files checked path with
  | some (.error _) => true
  | _ => false

/-- The paths that are looked at: those of the order, up to and including the first whose file
cannot be loaded. -/
def visited (host : Host) (checked : Bool) (home start : Text) : List Text :=
  upTo (fails host.files checked) (order host home start)

theorem walk_congr {files files' : FileSystem} {checked : Bool} {dirs : List Text}
    (h : ∀ path ∈ upTo (fails files checked) (ascent files dirs), files' path = files path) :
    walk files' checked dirs = walk files checked dirs := by
  induction dirs with
  | nil => rfl
  | cons dir dirs ih =>
    rw [ascent, List.map_cons, upTo_cons, ← ascent, upTo_cons] at h
    obtain ⟨hdir, hrest⟩ := List.forall_mem_cons.1 h
    rw [walk, walk]
    simp only [hdir]
    cases hfile : files (fileIn dir) with
    | none =>
      have hload : load? files checked (fileIn dir) = none := by rw [load?, hfile, Option.map_none]
      rw [fails, hload, isRoot_of_absent hload] at hrest
      exact ih hrest
    | some entry =>
      refine Traced.bind_congr fun settings hread => ?_
      have hload : load? files checked (fileIn dir) = some (.ok ⟨fileIn dir, settings⟩) := by
        rw [load?, hfile, Option.map_some, hread]
        rfl
      rw [fails, hload, isRoot_of_ok hload] at hrest
      cases hroot : settings.root with
      | true => rfl
      | false =>
        simp only [hroot, Bool.false_eq_true, if_false] at hrest ⊢
        rw [ih hrest]

theorem homeSettings_congr {host : Host} {files' : FileSystem} {home : Text}
    (hhome : host.home = some home) {found : List LoadedSettings}
    (h : ∀ path ∈ homePaths host.environment home found, files' path = host.files path)
    (checked : Bool) :
    homeSettings { host with files := files' } checked found = homeSettings host checked found := by
  have hoff := isSome_homeSwitch? host.environment found
  simp only [homeSettings, homeFile, hhome]
  cases hswitch : homeSwitch? host.environment found with
  | some name => rfl
  | none =>
    rw [hswitch, Option.isSome_none] at hoff
    refine Traced.bind_congr fun path hpath => ?_
    obtain rfl := Except.ok.inj hpath
    rw [homePaths, ← hoff, Bool.false_or] at h
    split_ifs at h ⊢ with hseen
    · rfl
    · rw [h _ List.mem_cons_self]

theorem fails_eq_false_iff {files : FileSystem} {checked : Bool} {paths : List Text} :
    (∀ path ∈ paths, fails files checked path = false) ↔
      ∀ r ∈ paths.filterMap (load? files checked), ∃ loaded, r = .ok loaded := by
  simp only [List.forall_mem_filterMap]
  refine forall₂_congr fun path _ => ?_
  rw [fails]
  cases load? files checked path with
  | none => simp
  | some r => cases r <;> simp

theorem upTo_homePaths (stops : Text → Bool) (environment : Environment) (home : Text)
    (found : List LoadedSettings) :
    upTo stops (homePaths environment home found) = homePaths environment home found := by
  rw [homePaths]
  split_ifs
  · rfl
  · rw [upTo_cons]
    cases stops (fileIn home) <;> rfl

theorem discover_congr {host : Host} {files' : FileSystem} {home : Text}
    (hhome : host.home = some home) {checked : Bool} {start : Text}
    (h : ∀ path ∈ visited host checked home start, files' path = host.files path) :
    discover { host with files := files' } checked start = discover host checked start := by
  rw [visited, order] at h
  have hnear : ∀ path ∈ upTo (fails host.files checked)
      (ascent host.files (FilePath.withParents start)), files' path = host.files path := by
    intro path hpath
    refine h path ?_
    rw [upTo_append]
    exact List.mem_append_left _ hpath
  rw [discover, discover, walk_congr hnear]
  refine Traced.bind_congr fun near hwalk => ?_
  rw [result_walk, collect_eq_ok_iff] at hwalk
  -- The walk succeeded, so the home directory is looked at behind it.
  have hloads : ∀ path ∈ ascent host.files (FilePath.withParents start),
      fails host.files checked path = false := by
    refine fails_eq_false_iff.2 ?_
    rw [hwalk]
    exact List.forall_mem_map.2 fun loaded _ => ⟨loaded, rfl⟩
  rw [upTo_append_of_none hloads, listed_eq hwalk, upTo_homePaths] at h
  rw [homeSettings_congr hhome (List.forall_mem_append.1 h).2]

theorem loads_eq_error_iff {files : FileSystem} {checked : Bool} {paths : List Text}
    {e : SettingsError} :
    (paths.filterMap (load? files checked)).mapM id = (.error e : Except _ (List LoadedSettings)) ↔
      ∃ before path after, paths = before ++ path :: after ∧
        (∀ p ∈ before, fails files checked p = false) ∧
        load? files checked path = some (.error e) := by
  rw [mapM_eq_error_iff]
  constructor
  · rintro ⟨loads, r, rest, heq, hloads, rfl⟩
    obtain ⟨before, behind, rfl, rfl, hbehind⟩ := List.filterMap_eq_append_iff.1 heq
    obtain ⟨absent, path, after, rfl, habsent, hpath, -⟩ := List.filterMap_eq_cons_iff.1 hbehind
    refine ⟨before ++ absent, path, after, by simp, ?_, hpath⟩
    refine List.forall_mem_append.2 ⟨fails_eq_false_iff.2 hloads, fun p hp => ?_⟩
    rw [fails, habsent p hp]
  · rintro ⟨before, path, after, rfl, hbefore, hpath⟩
    exact ⟨before.filterMap (load? files checked), .error e,
      after.filterMap (load? files checked),
      by rw [List.filterMap_append, List.filterMap_cons_some hpath],
      fails_eq_false_iff.1 hbefore, rfl⟩

/-- The search gives what is in the files of the order, none of them twice, or else the failure of
the first that cannot be loaded. The files behind that one, those above a root and those that are
switched off can be anything. -/
theorem discover_reads_order {host : Host} {home : Text} (hhome : host.home = some home)
    (checked : Bool) (start : Text) :
    FilePath.WayUp start (FilePath.withParents start) ∧
    (∀ found, (discover host checked start).result = .ok found ↔
      (order host home start).filterMap (load? host.files checked) = found.map .ok) ∧
    (∀ found, (discover host checked start).result = .ok found →
      found.map LoadedSettings.path =
        (order host home start).filter (fun path => (host.files path).isSome) ∧
      found.Pairwise fun a b => FilePath.same a.path b.path = false) ∧
    (∀ e, (discover host checked start).result = .error e ↔
      ∃ before path after, order host home start = before ++ path :: after ∧
        (∀ p ∈ before, fails host.files checked p = false) ∧
        load? host.files checked path = some (.error e)) ∧
    ∀ files', (∀ path ∈ visited host checked home start, files' path = host.files path) →
      discover { host with files := files' } checked start = discover host checked start := by
  have hloads : ∀ found, (discover host checked start).result = .ok found ↔
      (order host home start).filterMap (load? host.files checked) = found.map .ok := by
    intro found
    rw [result_discover, attempts_eq hhome, collect_eq_ok_iff]
  refine ⟨FilePath.wayUp_withParents start, hloads,
    fun found hfound => ⟨paths_of_loads ((hloads found).1 hfound), pairwise_of_discover hfound⟩,
    fun e => ?_, fun files' hfiles => discover_congr hhome hfiles⟩
  rw [result_discover, attempts_eq hhome, loads_eq_error_iff]

/-- A root with a file above it that cannot be read, and a file in the home directory that a variable
with the given value may switch off. -/
def sheltered (value : Text) : Host where
  files path :=
    [("a/b/.import-rename.toml".toList,
        Entry.file "root = true\nroot-config-lookup-disable-env-var = 'OFF'".toList),
      ("a/.import-rename.toml".toList, .binary),
      ("/h/.import-rename.toml".toList, .file "rules = [['p => q', '']]".toList)].lookup path
  environment name := if name = "OFF".toList then some value else none
  home := some "/h".toList

theorem discover_reads_order_sheltered :
    let inner : LoadedSettings :=
      ⟨"a/b/.import-rename.toml".toList, ⟨true, some "OFF".toList, []⟩⟩
    (sheltered "No".toList).home = some "/h".toList ∧
    (discover (sheltered "No".toList) true "a/b".toList).result =
      .ok [inner, ⟨"/h/.import-rename.toml".toList,
        ⟨false, none, [⟨"p => q".toList, some []⟩]⟩⟩] ∧
    (discover (sheltered "nothing".toList) true "a/b".toList).result = .ok [inner] ∧
    discover { sheltered "No".toList with
        files := fun path =>
          if path = "a/.import-rename.toml".toList then none
          else (sheltered "No".toList).files path }
      true "a/b".toList = discover (sheltered "No".toList) true "a/b".toList := by
  intro inner
  have hhome : ∀ value, (sheltered value).home = some "/h".toList := fun _ => rfl
  obtain ⟨-, hfound, -, -, hfiles⟩ := discover_reads_order (hhome "No".toList) true "a/b".toList
  obtain ⟨-, hnear, -⟩ := discover_reads_order (hhome "nothing".toList) true "a/b".toList
  exact ⟨hhome _, (hfound _).2 (by decide +kernel), (hnear _).2 (by decide +kernel),
    hfiles _ (by decide +kernel)⟩

end Reroute.Cascade
