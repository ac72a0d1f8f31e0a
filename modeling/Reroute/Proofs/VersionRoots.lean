import Reroute.Proofs.VersionHeads

set_option autoImplicit false

namespace Reroute

theorem Path.trimSlashes_eq_nil_iff {p : Text} :
    Text.trimSlashes p = [] ↔ ∀ s ∈ segments p, s = [] := by
  constructor
  · intro h
    obtain ⟨n, hn⟩ := Text.split_eq_split_trimSlashes_append p
    rw [h] at hn
    intro s hs
    rw [segments, hn] at hs
    rcases List.mem_append.1 hs with hs | hs
    · exact List.mem_singleton.1 hs
    · exact List.eq_of_mem_replicate hs
  · intro h
    have hsegs : segments p = List.replicate (segments p).length [] :=
      List.eq_replicate_iff.2 ⟨rfl, h⟩
    obtain ⟨n, hn⟩ := Nat.exists_eq_succ_of_ne_zero
      (mt List.length_eq_zero_iff.1 (segments_ne_nil p))
    have hp : p = List.replicate n '/' := by
      apply segments_injective
      rw [hsegs, hn]
      exact (Text.split_replicate '/' n).symm
    rw [hp]
    exact Text.trimSlashes_replicate n

namespace Version

theorem exists_eq_trimSlashes_splitLast_append (p : Text) :
    ∃ back, p = Text.trimSlashes (splitLast p).1 ++ back := by
  obtain ⟨-, ⟨-, hdir⟩ | hp⟩ := splitLast_spec p
  · rw [hdir]
    exact ⟨p, rfl⟩
  · obtain ⟨n, hn⟩ := Text.eq_trimSlashes_append (splitLast p).1
    refine ⟨List.replicate n '/' ++ '/' :: (splitLast p).2, ?_⟩
    rw [← List.append_assoc, ← hn]
    exact hp

theorem eq_nil_of_splitLast {p : Text} (htrim : Text.trimSlashes p = p)
    (hdir : Text.trimSlashes (splitLast p).1 = []) (hlast : (splitLast p).2 = []) : p = [] := by
  obtain ⟨-, ⟨hp, -⟩ | hp⟩ := splitLast_spec p
  · rw [hp, hlast]
  · rw [hlast] at hp
    rw [← htrim, hp, Text.trimSlashes_append_slash, hdir]

end Version

namespace VersionBump

variable {b : VersionBump} {base dir path target : Text} {jump : Nat}

def OnlyVersion (base : Text) : Prop :=
  (∀ s ∈ (Path.segments (Text.trimSlashes base)).dropLast, s = []) ∧
    ∀ last ∈ (Path.segments (Text.trimSlashes base)).getLast?,
      last = [] ∨ (Version.suffix? last).isSome = true

instance (base : Text) : Decidable (OnlyVersion base) :=
  inferInstanceAs (Decidable (_ ∧ _))

theorem onlyVersion_iff : OnlyVersion base ↔
    Text.trimSlashes (Version.splitLast (Text.trimSlashes base)).1 = [] ∧
      ((Version.splitLast (Text.trimSlashes base)).2 = [] ∨
        (Version.suffix? (Version.splitLast (Text.trimSlashes base)).2).isSome = true) := by
  obtain ⟨front, hsegs, hfront⟩ := Version.segments_splitLast (Text.trimSlashes base)
  have hempty : (∀ s ∈ front, s = []) ↔
      Text.trimSlashes (Version.splitLast (Text.trimSlashes base)).1 = [] := by
    rcases hfront with ⟨rfl, hdir⟩ | rfl
    · rw [hdir]
      exact iff_of_true (by simp) rfl
    · exact Path.trimSlashes_eq_nil_iff.symm
  simp only [OnlyVersion, hsegs, List.dropLast_concat, List.getLast?_concat, hempty,
    Option.mem_def, Option.some.injEq, forall_eq']

/-- A head lies in a directory that the base begins with. It lies in none exactly if the base is
nothing but a version. -/
theorem Made.exists_dir (h : Made base jump b) : ∃ dir back, b.head = headOf dir b.target ∧
    b.base = dir ++ back ∧ (dir = [] ↔ OnlyVersion base) := by
  rw [onlyVersion_iff]
  cases h with
  | unversioned last bound =>
    refine ⟨Text.trimSlashes base, [], rfl, (List.append_nil _).symm, ?_⟩
    rw [last]
    constructor
    · intro hempty
      rw [hempty]
      exact ⟨rfl, .inl rfl⟩
    · rintro ⟨hdir, hlast | hlast⟩
      · exact Version.eq_nil_of_splitLast (Text.trimSlashes_idem base) hdir hlast
      · cases hlast
  | @versioned major last least bound =>
    obtain ⟨back, hback⟩ :=
      Version.exists_eq_trimSlashes_splitLast_append (Text.trimSlashes base)
    refine ⟨_, back, rfl, hback, ?_⟩
    rw [last]
    exact ⟨fun hdir => ⟨hdir, .inr rfl⟩, And.left⟩

theorem rooted_headOf (dir : Text) (major : Nat) :
    Path.rooted (headOf dir major) = Path.rooted dir := by
  by_cases hdir : dir = []
  · rw [hdir]
    rfl
  · rw [headOf_eq_append hdir, Path.rooted_append hdir]

theorem rooted_target (hhead : b.head = headOf dir b.target)
    (htarget : b.replacement? path = some target) : Path.rooted target = Path.rooted dir := by
  rw [← rooted_headOf dir b.target, ← hhead]
  rcases replacement?_eq_some_iff.1 htarget with ⟨-, rfl⟩ | ⟨rest, -, -, rfl⟩
  · rfl
  · have hne : b.head ≠ [] := by
      rw [hhead]
      exact headOf_ne_nil dir b.target
    rw [Path.rooted_clean, Path.rooted_append hne]

theorem rooted_path {back : Text} (hbase : b.base = dir ++ back) (hdir : dir ≠ [])
    (htarget : b.replacement? path = some target) : Path.rooted path = Path.rooted dir := by
  rcases replacement?_eq_some_iff.1 htarget with ⟨rfl, -⟩ | ⟨rest, rfl, -⟩
  · rw [hbase, Path.rooted_append hdir]
  · rw [hbase, List.append_assoc, Path.rooted_append hdir]

/-- Absolute paths stay absolute and relative ones relative, except for the absolute paths below a
base that is nothing but a version. -/
theorem bump_keeps_root_iff (hmake : make base jump = .ok b)
    (htarget : b.replacement? path = some target) :
    (Path.rooted target = true ↔ Path.rooted path = true) ↔
      ¬ (Path.rooted path = true ∧ OnlyVersion base) := by
  obtain ⟨-, hmade⟩ := make_eq_ok_iff.1 hmake
  obtain ⟨dir, back, hhead, hbase, hdir⟩ := hmade.exists_dir
  rw [← hdir]
  by_cases hempty : dir = []
  · -- The head is the bare new version, which is relative whatever the path is.
    have hrelative : Path.rooted target = false := by
      rw [rooted_target hhead htarget, hempty]
      rfl
    simp [hrelative, hempty]
  · simp [rooted_target hhead htarget, rooted_path hbase hempty htarget, hempty]

theorem bump_keeps_root_iff_below_directory : ∃ b, make "//srv///v2/".toList 1 = .ok b ∧
    b.replacement? "//srv///v2/../../../x".toList = some "/x".toList ∧
    (Path.rooted "/x".toList = true ↔ Path.rooted "//srv///v2/../../../x".toList = true) := by
  have hmake : make "//srv///v2/".toList 1 =
      .ok ⟨"//srv///v2".toList, "//srv/v3".toList, 2, 3⟩ := by rfl
  have htarget : (⟨"//srv///v2".toList, "//srv/v3".toList, 2, 3⟩ :
      VersionBump).replacement? "//srv///v2/../../../x".toList = some "/x".toList := by rfl
  exact ⟨_, hmake, htarget, (bump_keeps_root_iff hmake htarget).2 (by decide)⟩

/-- The absolute paths below a bare version become relative. -/
theorem bare_version_loses_root : ∃ b, make "/v2".toList 1 = .ok b ∧
    b.replacement? "/v2/data".toList = some "v3/data".toList ∧
    Path.rooted "/v2/data".toList = true ∧ Path.rooted "v3/data".toList = false :=
  ⟨⟨"/v2".toList, "v3".toList, 2, 3⟩, by rfl, by rfl, by rfl, by rfl⟩

end VersionBump

end Reroute
