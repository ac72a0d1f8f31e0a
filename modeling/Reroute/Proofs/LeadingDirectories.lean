import Reroute.Proofs.LeadingReplacements
import Reroute.Proofs.NormalPaths

set_option autoImplicit false

namespace Reroute

theorem Path.segments_eq_append_iff {dir path : Text} {rest : List Text} :
    segments path = segments dir ++ rest ↔
      (path = dir ∧ rest = []) ∨ ∃ below, path = dir ++ '/' :: below ∧ rest = segments below := by
  constructor
  · intro h
    by_cases hrest : rest = []
    · subst rest
      rw [List.append_nil] at h
      exact .inl ⟨segments_injective h, rfl⟩
    · have hpath : path = dir ++ '/' :: Text.join '/' rest := by
        calc
          path = Text.join '/' (segments dir ++ rest) := by rw [← h, join_segments]
          _ = Text.join '/' (segments dir) ++ '/' :: Text.join '/' rest :=
            Text.join_append (segments_ne_nil dir) hrest
          _ = dir ++ '/' :: Text.join '/' rest := by rw [join_segments]
      refine .inr ⟨_, hpath, ?_⟩
      rw [hpath, segments_append_slash] at h
      exact (List.append_cancel_left h).symm
  · rintro (⟨rfl, rfl⟩ | ⟨below, rfl, rfl⟩)
    · exact (List.append_nil _).symm
    · exact segments_append_slash dir below

namespace Leading

/-- Replaces a directory at the beginning of a path, whether the path goes on below it or not. -/
def ofDirectory (source target : Text) : Leading :=
  ⟨source ++ ['/'], target ++ ['/']⟩

theorem ofDirectory_below (source target rest : Text) :
    (ofDirectory source target).replacement? (source ++ '/' :: rest) =
      some (target ++ '/' :: rest) := by
  have h := replacement?_append (ofDirectory source target) rest
  simpa only [ofDirectory, List.append_assoc, List.singleton_append] using h

theorem ofDirectory_of_not_below {source target path : Text}
    (hbelow : ∀ rest, path ≠ source ++ '/' :: rest) :
    (ofDirectory source target).replacement? path =
      if path = Text.trimSlashes source then some (Text.trimSlashes target) else none := by
  have hbegins : ∀ rest, path ≠ (ofDirectory source target).source ++ rest := by
    intro rest hrest
    rw [ofDirectory, List.append_assoc] at hrest
    exact hbelow rest hrest
  rw [replacement?_of_not_append hbegins]
  simp only [ofDirectory, Text.trimSlashes_append_slash]

section Segments

variable {source target : Text}

theorem ofDirectory_self (hsource : source.getLast? ≠ some '/')
    (htarget : target.getLast? ≠ some '/') :
    (ofDirectory source target).replacement? source = some target := by
  have hself : ∀ rest, source ≠ source ++ '/' :: rest := by
    intro rest h
    simp at h
  rw [ofDirectory_of_not_below hself, Text.trimSlashes_eq_self hsource,
    Text.trimSlashes_eq_self htarget, if_pos rfl]

theorem ofDirectory_eq_some_iff (hsource : source.getLast? ≠ some '/')
    (htarget : target.getLast? ≠ some '/') {path result : Text} :
    (ofDirectory source target).replacement? path = some result ↔
      (path = source ∧ result = target) ∨
        ∃ below, path = source ++ '/' :: below ∧ result = target ++ '/' :: below := by
  constructor
  · intro h
    by_cases hbelow : ∃ below, path = source ++ '/' :: below
    · obtain ⟨below, rfl⟩ := hbelow
      rw [ofDirectory_below] at h
      exact .inr ⟨below, rfl, (Option.some.inj h).symm⟩
    · rw [not_exists] at hbelow
      rw [ofDirectory_of_not_below hbelow, Text.trimSlashes_eq_self hsource,
        Text.trimSlashes_eq_self htarget] at h
      split_ifs at h with hpath
      exact .inl ⟨hpath, (Option.some.inj h).symm⟩
  · rintro (⟨rfl, rfl⟩ | ⟨below, rfl, rfl⟩)
    · exact ofDirectory_self hsource htarget
    · exact ofDirectory_below source target below

theorem ofDirectory_eq_some_iff_segments (hsource : source.getLast? ≠ some '/')
    (htarget : target.getLast? ≠ some '/') {path result : Text} :
    (ofDirectory source target).replacement? path = some result ↔
      ∃ rest, Path.segments path = Path.segments source ++ rest ∧
        result = Text.join '/' (Path.segments target ++ rest) := by
  rw [ofDirectory_eq_some_iff hsource htarget]
  constructor
  · rintro (⟨rfl, rfl⟩ | ⟨below, rfl, rfl⟩)
    · refine ⟨[], (List.append_nil _).symm, ?_⟩
      rw [List.append_nil, Path.join_segments]
    · refine ⟨Path.segments below, Path.segments_append_slash source below, ?_⟩
      rw [← Path.segments_append_slash, Path.join_segments]
  · rintro ⟨rest, hsegs, rfl⟩
    rcases Path.segments_eq_append_iff.1 hsegs with ⟨rfl, rfl⟩ | ⟨below, rfl, rfl⟩
    · refine .inl ⟨rfl, ?_⟩
      rw [List.append_nil, Path.join_segments]
    · refine .inr ⟨below, rfl, ?_⟩
      rw [← Path.segments_append_slash, Path.join_segments]

/-- Whole segments are replaced and nothing else: a path that shares only a part of a segment with
the directory is left alone. -/
theorem directory_rewrites_segments (hsource : source.getLast? ≠ some '/')
    (htarget : target.getLast? ≠ some '/') (path : Text) :
    (∀ result, (ofDirectory source target).replacement? path = some result ↔
      ∃ rest, Path.segments path = Path.segments source ++ rest ∧
        result = Text.join '/' (Path.segments target ++ rest)) ∧
    ((ofDirectory source target).replacement? path = none ↔
      ¬ Path.segments source <+: Path.segments path) ∧
    (path = source → (ofDirectory source target).replacement? path = some target) ∧
    (∀ c more, c ≠ '/' → path = source ++ c :: more →
      (ofDirectory source target).replacement? path = none) := by
  refine ⟨fun _ => ofDirectory_eq_some_iff_segments hsource htarget, ?_, ?_, ?_⟩
  · simp only [Option.eq_none_iff_forall_ne_some, ne_eq,
      ofDirectory_eq_some_iff_segments hsource htarget]
    constructor
    · rintro hnone ⟨rest, hrest⟩
      exact hnone _ ⟨rest, hrest.symm, rfl⟩
    · rintro hprefix _ ⟨rest, hrest, -⟩
      exact hprefix ⟨rest, hrest.symm⟩
  · rintro rfl
    exact ofDirectory_self hsource htarget
  · intro c more hc hpath
    rw [Option.eq_none_iff_forall_ne_some]
    intro result hresult
    rcases (ofDirectory_eq_some_iff hsource htarget).1 hresult with ⟨hself, -⟩ | ⟨below, hbelow, -⟩
    · rw [hself] at hpath
      simp at hpath
    · rw [hbelow] at hpath
      exact hc (List.cons.inj (List.append_cancel_left hpath)).1.symm

theorem directory_rewrites_segments_doubled_slash :
    "a//b".toList.getLast? ≠ some '/' ∧ ("".toList : Text).getLast? ≠ some '/' ∧
    (ofDirectory "a//b".toList "".toList).replacement? "a//b//c/".toList =
      some "//c/".toList ∧
    (ofDirectory "a//b".toList "".toList).replacement? "a//bc/".toList = none := by
  have hsource : "a//b".toList.getLast? ≠ some '/' := by decide
  have htarget : ("".toList : Text).getLast? ≠ some '/' := by decide
  obtain ⟨hbelow, -⟩ := directory_rewrites_segments hsource htarget "a//b//c/".toList
  obtain ⟨-, -, -, hbeside⟩ := directory_rewrites_segments hsource htarget "a//bc/".toList
  exact ⟨hsource, htarget,
    (hbelow _).2 ⟨["".toList, "c".toList, "".toList], by decide, by decide⟩,
    hbeside 'c' "/".toList (by decide) (by decide)⟩

end Segments

end Leading

end Reroute
