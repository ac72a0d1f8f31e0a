import Reroute.Proofs.Remainders
import Reroute.Proofs.VersionBumps

set_option autoImplicit false

namespace Reroute

namespace Version

theorem isName_segment (major : Nat) : Path.IsName (segment major) := by
  refine ⟨?_, ?_, slash_not_mem_segment major⟩
  · simp [segment, Path.isBlank]
  · simp [segment, Path.up]

theorem isName_of_suffix? {s : Text} {major : Nat} (h : suffix? s = some major) (hslash : '/' ∉ s) :
    Path.IsName s := by
  refine ⟨fun hblank => ?_, fun hup => ?_, hslash⟩
  · rw [suffix?_of_isBlank hblank] at h
    cases h
  · rw [hup, suffix?_up] at h
    cases h

theorem splitLast_append_slash (dir : Text) {s : Text} (h : '/' ∉ s) :
    splitLast (dir ++ '/' :: s) = (dir, s) := by
  obtain ⟨hslash, ⟨hp, -⟩ | hp⟩ := splitLast_spec (dir ++ '/' :: s)
  · rw [← hp] at hslash
    simp at hslash
  · have hsegs := congrArg Path.segments hp
    rw [Path.segments_append_slash, Path.segments_append_slash,
      show Path.segments s = [s] from Text.split_eq_singleton h,
      show Path.segments _ = [_] from Text.split_eq_singleton hslash] at hsegs
    have hlast : s = (splitLast (dir ++ '/' :: s)).2 := by
      simpa using (List.append_inj' hsegs rfl).2
    rw [← hlast] at hp
    have hdir : dir = (splitLast (dir ++ '/' :: s)).1 := List.append_cancel_right hp
    exact Prod.ext hdir.symm hlast.symm

theorem splitLast_of_no_slash {s : Text} (h : '/' ∉ s) : splitLast s = ([], s) := by
  obtain ⟨-, ⟨hp, hdir⟩ | hp⟩ := splitLast_spec s
  · exact Prod.ext hdir hp.symm
  · rw [hp] at h
    simp at h

theorem segments_eq_trimSlashes_splitLast (p : Text) : ∃ n, Path.segments p =
    (if Text.trimSlashes (splitLast p).1 = [] then []
      else Path.segments (Text.trimSlashes (splitLast p).1)) ++
      (List.replicate n [] ++ [(splitLast p).2]) := by
  obtain ⟨front, hfront, ⟨rfl, hdir⟩ | rfl⟩ := segments_splitLast p
  · refine ⟨0, ?_⟩
    rw [hfront, hdir]
    rfl
  · obtain ⟨n, hn⟩ : ∃ n, Path.segments (splitLast p).1 =
        Path.segments (Text.trimSlashes (splitLast p).1) ++ List.replicate n [] :=
      Text.split_eq_split_trimSlashes_append _
    rw [hfront, hn]
    by_cases hdir : Text.trimSlashes (splitLast p).1 = []
    · refine ⟨n + 1, ?_⟩
      rw [hdir, if_pos rfl, List.replicate_succ]
      rfl
    · refine ⟨n, ?_⟩
      rw [if_neg hdir, List.append_assoc]

end Version

namespace VersionBump

theorem headOf_nil (major : Nat) : headOf [] major = Version.segment major := rfl

theorem headOf_eq_append {dir : Text} (h : dir ≠ []) (major : Nat) :
    headOf dir major = dir ++ '/' :: Version.segment major := by
  rw [headOf, if_neg (by simpa using h)]

theorem headOf_ne_nil (dir : Text) (major : Nat) : headOf dir major ≠ [] := by
  by_cases h : dir = []
  · rw [h, headOf_nil]
    exact List.cons_ne_nil _ _
  · rw [headOf_eq_append h]
    simp

theorem trimSlashes_headOf (dir : Text) (major : Nat) :
    Text.trimSlashes (headOf dir major) = headOf dir major := by
  have hne : Version.segment major ≠ [] := List.cons_ne_nil _ _
  have hslash := Version.slash_not_mem_segment major
  by_cases h : dir = []
  · rw [h, headOf_nil]
    exact Text.trimSlashes_append [] hne hslash
  · rw [headOf_eq_append h, List.append_cons]
    exact Text.trimSlashes_append _ hne hslash

theorem splitLast_headOf (dir : Text) (major : Nat) :
    Version.splitLast (headOf dir major) = (dir, Version.segment major) := by
  have hslash := Version.slash_not_mem_segment major
  by_cases h : dir = []
  · rw [h, headOf_nil]
    exact Version.splitLast_of_no_slash hslash
  · rw [headOf_eq_append h]
    exact Version.splitLast_append_slash dir hslash

theorem make_headOf {dir : Text} {major jump : Nat} (hdir : Text.trimSlashes dir = dir)
    (hleast : 2 ≤ major) (hjump : 0 < jump) (hbound : major + jump ≤ maxMajor) :
    make (headOf dir major) jump =
      .ok ⟨headOf dir major, headOf dir (major + jump), major, major + jump⟩ := by
  have hsplit := splitLast_headOf dir major
  have hlast : Version.suffix?
      (Version.splitLast (Text.trimSlashes (headOf dir major))).2 = some major := by
    rw [trimSlashes_headOf, hsplit]
    exact Version.suffix?_segment (by omega)
  have hmade := Made.versioned hlast hleast hbound
  rw [trimSlashes_headOf, hsplit, hdir] at hmade
  exact make_eq_ok_iff.2 ⟨hjump, hmade⟩

theorem stack_headOf (dir : Text) (major : Nat) : ∃ below,
    Path.stack (headOf dir major) = Version.segment major :: below := by
  have hname := Version.isName_segment major
  refine ⟨(if dir = [] then [] else Path.segments dir).foldl
    (Path.push (Path.rooted (headOf dir major))) [], ?_⟩
  rw [Path.stack, segments_headOf, List.foldl_append, List.foldl_cons, List.foldl_nil, hname.push]

theorem clean_headOf {dir : Text} (hclean : Path.clean dir = dir) (hstack : Path.stack dir ≠ [])
    (major : Nat) : Path.clean (headOf dir major) = headOf dir major := by
  have hdir : dir ≠ [] := by
    rintro rfl
    exact absurd hclean (by decide)
  have hadds := Path.Adds.name (Version.isName_segment major)
  rw [headOf_eq_append hdir, hadds.clean_append_slash_join (List.cons_ne_nil _ _) hdir hstack,
    hclean]
  rfl

/-- The base and the head share `front`. Behind it the base has its own version, if it declares
one, and the head has the new version. -/
structure Fork (b : VersionBump) (front own : List Text) : Prop where
  base : ∃ n, Path.segments b.base = front ++ (List.replicate n [] ++ own)
  head : Path.segments b.head = front ++ [Version.segment b.target]
  own : b.current = 0 ∧ own = [] ∨
    ∃ last, own = [last] ∧ Path.IsName last ∧ last ≠ Version.segment b.target

theorem Made.base_eq {base : Text} {jump : Nat} {b : VersionBump} (h : Made base jump b) :
    b.base = Text.trimSlashes base := by
  cases h <;> rfl

theorem Made.head_eq {base : Text} {jump : Nat} {b : VersionBump} (h : Made base jump b) :
    ∃ dir, b.head = headOf dir b.target := by
  cases h <;> exact ⟨_, rfl⟩

theorem Made.trimSlashes_base {base : Text} {jump : Nat} {b : VersionBump}
    (h : Made base jump b) : Text.trimSlashes b.base = b.base := by
  rw [h.base_eq, Text.trimSlashes_idem]

theorem Made.head_ne_nil {base : Text} {jump : Nat} {b : VersionBump} (h : Made base jump b) :
    b.head ≠ [] := by
  obtain ⟨dir, hdir⟩ := h.head_eq
  rw [hdir]
  exact headOf_ne_nil dir b.target

theorem Made.stack_head {base : Text} {jump : Nat} {b : VersionBump} (h : Made base jump b) :
    ∃ below, Path.stack b.head = Version.segment b.target :: below := by
  obtain ⟨dir, hdir⟩ := h.head_eq
  rw [hdir]
  exact stack_headOf dir b.target

theorem Made.stack_head_ne_nil {base : Text} {jump : Nat} {b : VersionBump}
    (h : Made base jump b) : Path.stack b.head ≠ [] := by
  obtain ⟨below, hbelow⟩ := h.stack_head
  rw [hbelow]
  exact List.cons_ne_nil _ _

theorem Made.target_le {base : Text} {jump : Nat} {b : VersionBump} (h : Made base jump b) :
    b.target ≤ maxMajor := by
  cases h with
  | unversioned _ bound => exact bound
  | versioned _ _ bound => exact bound

theorem Made.exists_fork {base : Text} {jump : Nat} {b : VersionBump} (h : Made base jump b)
    (hjump : 0 < jump) : ∃ front own, Fork b front own := by
  cases h with
  | unversioned last bound =>
    refine ⟨_, [], ⟨?_, segments_headOf _ _, .inl ⟨rfl, rfl⟩⟩⟩
    by_cases hbase : Text.trimSlashes base = []
    · refine ⟨1, ?_⟩
      rw [hbase]
      rfl
    · refine ⟨0, ?_⟩
      rw [if_neg hbase]
      exact (List.append_nil _).symm
  | @versioned major last least bound =>
    have hslash := (Version.splitLast_spec (Text.trimSlashes base)).1
    have hne : (Version.splitLast (Text.trimSlashes base)).2 ≠ Version.segment (major + jump) := by
      intro heq
      rw [heq, Version.suffix?_segment bound] at last
      have hsame := Option.some.inj last
      omega
    exact ⟨_, _, ⟨Version.segments_eq_trimSlashes_splitLast _, segments_headOf _ _,
      .inr ⟨_, rfl, Version.isName_of_suffix? last hslash, hne⟩⟩⟩

theorem Made.clean_head {base : Text} {jump : Nat} {b : VersionBump} (h : Made base jump b)
    (hclean : Path.clean b.base = b.base) (hdot : b.base ≠ ['.']) :
    Path.clean b.head = b.head := by
  have htrim := h.trimSlashes_base
  cases h with
  | unversioned last bound =>
    exact clean_headOf hclean (Path.stack_ne_nil_of_clean hclean hdot htrim) _
  | @versioned major last least bound =>
    by_cases hdir : (Version.splitLast (Text.trimSlashes base)).1 = []
    · rw [hdir]
      exact Path.clean_name (Version.isName_segment _)
    · -- The directory is what the base begins with, and no slash is trimmed from it.
      have hbase := (Version.splitLast_spec (Text.trimSlashes base)).2.resolve_left
        fun hwhole => hdir hwhole.2
      change Path.clean (Text.trimSlashes base) = Text.trimSlashes base at hclean
      rw [hbase] at hclean
      obtain ⟨hstack, hdirClean⟩ := Path.clean_of_clean_append_slash hdir hclean
      rw [Path.trimSlashes_of_clean hdirClean hstack]
      exact clean_headOf hdirClean hstack _

theorem replacement?_base (b : VersionBump) : b.replacement? b.base = some b.head :=
  replacement?_eq_some_iff.2 (.inl ⟨rfl, rfl⟩)

theorem replacement?_below (b : VersionBump) (rest : Text) :
    b.replacement? (b.base ++ '/' :: rest) =
      if b.current = 0 ∧ declaresMajor rest = true then none
      else some (Path.clean (b.head ++ '/' :: rest)) := by
  have hdrop : Text.dropPrefix? (b.base ++ ['/']) (b.base ++ '/' :: rest) = some rest := by
    rw [Text.dropPrefix?_eq_some_iff, List.append_assoc]
    rfl
  rw [replacement?, hdrop]

theorem replacement?_eq_none {b : VersionBump} {path : Text} (h : ¬ Path.Within b.base path) :
    b.replacement? path = none := by
  cases hpath : b.replacement? path with
  | none => rfl
  | some target =>
    rcases replacement?_eq_some_iff.1 hpath with ⟨hbase, -⟩ | ⟨rest, hbelow, -⟩
    · exact absurd (.inl hbase) h
    · exact absurd (.inr ⟨rest, hbelow⟩) h

end VersionBump

end Reroute
