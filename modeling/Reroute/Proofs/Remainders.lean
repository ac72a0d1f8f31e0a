import Reroute.Proofs.CanonicalPaths

set_option autoImplicit false

/-!
# Remainders

What a remainder does behind a path, whatever the path is. One that never climbs out puts names on
top and leaves what is below them alone. One that climbs out takes the last name of the path away,
and nothing but that name brings it back.
-/

namespace Reroute.Path

def Within (dir p : Text) : Prop :=
  p = dir ∨ ∃ rest, p = dir ++ '/' :: rest

/-- The path `dir` itself, or `dir` and a remainder that never climbs out of it. -/
def StaysWithin (dir p : Text) : Prop :=
  p = dir ∨ ∃ rest, p = dir ++ '/' :: rest ∧ StaysBelow rest

/-- On any stack the remainder puts these names and does nothing else. -/
structure Adds (rest : Text) (added : List Text) : Prop where
  names : ∀ s ∈ added, IsName s
  foldl_push : ∀ atRoot st, (segments rest).foldl (push atRoot) st = added ++ st

instance (p : Text) : Decidable (StaysBelow p) :=
  inferInstanceAs (Decidable (_ = true))

theorem within_iff_dropPrefix? {dir p : Text} :
    Within dir p ↔ p = dir ∨ (Text.dropPrefix? (dir ++ ['/']) p).isSome = true := by
  rw [Within, Option.isSome_iff_exists]
  simp only [Text.dropPrefix?_eq_some_iff, List.append_assoc, List.singleton_append]

instance (dir p : Text) : Decidable (Within dir p) :=
  decidable_of_iff' _ within_iff_dropPrefix?

theorem Within.exists_segments {dir p : Text} (h : Within dir p) :
    ∃ back, segments p = segments dir ++ back ∧
      (back ≠ [] → ∃ rest, p = dir ++ '/' :: rest ∧ segments rest = back) := by
  rcases h with rfl | ⟨rest, rfl⟩
  · exact ⟨[], (List.append_nil _).symm, fun hback => absurd rfl hback⟩
  · exact ⟨segments rest, segments_append_slash dir rest, fun _ => ⟨rest, rfl, rfl⟩⟩

theorem within_written_iff {atRoot : Bool} {st st' : List Text} (h : NormalStack atRoot st)
    (h' : NormalStack atRoot st') (hst : st ≠ []) :
    Within (written atRoot st) (written atRoot st') ↔ st <:+ st' := by
  constructor
  · intro hwithin
    by_cases hst' : st' = []
    · subst hst'
      rcases hwithin with heq | ⟨rest, heq⟩
      · have hstack := congrArg stack heq
        rw [stack_written h, stack_written h'] at hstack
        exact absurd hstack.symm hst
      · exact absurd heq (written_nil_ne (written_ne_nil h) rest)
    · obtain ⟨back, hback, -⟩ := hwithin.exists_segments
      have happend := h'.eq_append_of_segments hst' (segments_ne_nil _) hback
      have hfold : (segments (written atRoot st)).foldl (push atRoot) [] = st := by
        have hstack := stack_written h
        rwa [stack, rooted_written h] at hstack
      rw [hfold] at happend
      exact ⟨_, happend.symm⟩
  · rintro ⟨top, rfl⟩
    by_cases htop : top = []
    · subst htop
      exact .inl rfl
    · exact .inr ⟨_, written_append htop hst⟩

/-- A path in normal form lies below another just if it leads there from everywhere. -/
theorem within_clean_iff {p q s : Text} {below : List Text} (hroot : rooted p = rooted q)
    (hstack : stack p = s :: below) (hs : IsName s) : Within (clean p) (clean q) ↔
      ∀ start, (∀ t ∈ start, IsName t) → walk p start <:+ walk q start := by
  have hp := normalStack_stack p
  have hq := normalStack_stack q
  rw [← hroot] at hq
  rw [clean_eq_written p, clean_eq_written q, ← hroot,
    within_written_iff hp hq (by simp [hstack])]
  rw [hstack] at hp ⊢
  rw [hp.suffix_iff_follow hs hq]
  simp only [walk_eq_follow, ← hroot, hstack]
  constructor
  · intro hfollow start hnames
    refine hfollow _ ?_ fun hrooted => if_pos hrooted
    split_ifs
    · exact List.forall_mem_nil _
    · exact hnames
  · intro hwalk start hnames hstart
    have hfrom := hwalk start hnames
    by_cases hrooted : rooted p = true
    · rwa [if_pos hrooted, ← hstart hrooted] at hfrom
    · rwa [if_neg hrooted] at hfrom

theorem depthFrom_blank (depth : Nat) {s : Text} (h : isBlank s = true) (segs : List Text) :
    depthFrom depth (s :: segs) = depthFrom depth segs := by
  rw [depthFrom.eq_def]
  exact if_pos h

theorem depthFrom_up_zero (segs : List Text) : depthFrom 0 (up :: segs) = none := by
  rfl

theorem depthFrom_up_succ (depth : Nat) (segs : List Text) :
    depthFrom (depth + 1) (up :: segs) = depthFrom depth segs := by
  rfl

theorem depthFrom_plain (depth : Nat) {s : Text} (hblank : ¬ isBlank s = true) (hup : s ≠ up)
    (segs : List Text) : depthFrom depth (s :: segs) = depthFrom (depth + 1) segs := by
  rw [depthFrom.eq_def]
  exact (if_neg hblank).trans (if_neg hup)

/-- As long as the count does not fail, only what was put on top is taken away. -/
theorem foldl_push_of_depthFrom {segs : List Text} (top : List Text) {depth : Nat}
    (h : depthFrom top.length segs = some depth) (htop : ∀ s ∈ top, IsName s)
    (hslash : ∀ s ∈ segs, '/' ∉ s) :
    ∃ added, (∀ s ∈ added, IsName s) ∧
      ∀ atRoot st, segs.foldl (push atRoot) (top ++ st) = added ++ st := by
  -- The count is the number of names that are on top by now, and nothing is known of `st`.
  induction segs generalizing top with
  | nil => exact ⟨top, htop, fun _ _ => rfl⟩
  | cons s segs ih =>
    obtain ⟨hs, hsegs⟩ := List.forall_mem_cons.1 hslash
    by_cases hblank : isBlank s = true
    · rw [depthFrom_blank _ hblank] at h
      obtain ⟨added, hadded, hfold⟩ := ih top h htop hsegs
      refine ⟨added, hadded, fun atRoot st => ?_⟩
      rw [List.foldl_cons, push_blank _ _ hblank]
      exact hfold atRoot st
    by_cases hup : s = up
    · subst hup
      cases top with
      | nil =>
        rw [List.length_nil, depthFrom_up_zero] at h
        cases h
      | cons last top =>
        rw [List.length_cons, depthFrom_up_succ] at h
        obtain ⟨hlast, htop⟩ := List.forall_mem_cons.1 htop
        obtain ⟨added, hadded, hfold⟩ := ih top h htop hsegs
        refine ⟨added, hadded, fun atRoot st => ?_⟩
        rw [List.cons_append, List.foldl_cons, push_up_cons _ hlast.ne_up]
        exact hfold atRoot st
    · have hname : IsName s := ⟨hblank, hup, hs⟩
      rw [depthFrom_plain _ hblank hup] at h
      obtain ⟨added, hadded, hfold⟩ :=
        ih (s :: top) h (List.forall_mem_cons.2 ⟨hname, htop⟩) hsegs
      refine ⟨added, hadded, fun atRoot st => ?_⟩
      rw [List.foldl_cons, hname.push]
      exact hfold atRoot st

theorem StaysBelow.exists_adds {rest : Text} (h : StaysBelow rest) : ∃ added, Adds rest added := by
  obtain ⟨depth, hdepth⟩ := Option.isSome_iff_exists.1 h
  obtain ⟨added, hadded, hfold⟩ := foldl_push_of_depthFrom [] hdepth (by simp)
    fun _ hs => slash_not_mem_of_mem_segments hs
  exact ⟨added, hadded, hfold⟩

theorem Adds.of_names (rest : Text) (h : ∀ s ∈ segments rest, IsName s) :
    Adds rest (segments rest).reverse :=
  ⟨fun s hs => h s (List.mem_reverse.1 hs), foldl_push_names h⟩

theorem Adds.name {s : Text} (h : IsName s) : Adds s [s] := by
  have hsegs : segments s = [s] := Text.split_eq_singleton h.no_slash
  have hnames := Adds.of_names s fun t ht => by
    rw [hsegs, List.mem_singleton] at ht
    exact ht ▸ h
  rwa [hsegs] at hnames

theorem Adds.join {rest : Text} {added : List Text} (h : Adds rest added) (hne : added ≠ []) :
    Adds (Text.join '/' added.reverse) added := by
  have hsegs : segments (Text.join '/' added.reverse) = added.reverse :=
    Text.split_join (by simpa using hne) fun s hs => (h.names s (List.mem_reverse.1 hs)).no_slash
  have hnames := Adds.of_names (Text.join '/' added.reverse) fun s hs => by
    rw [hsegs] at hs
    exact h.names s (List.mem_reverse.1 hs)
  rwa [hsegs, List.reverse_reverse] at hnames

theorem Adds.clean_append_slash {rest p : Text} {added : List Text} (h : Adds rest added)
    (hp : p ≠ []) : clean (p ++ '/' :: rest) = written (rooted p) (added ++ stack p) := by
  rw [Path.clean_append_slash hp, h.foldl_push]

theorem Adds.normalStack {rest : Text} {added : List Text} (h : Adds rest added) (p : Text) :
    NormalStack (rooted p) (added ++ stack p) := by
  have hslash : ∀ s ∈ segments rest, '/' ∉ s := fun _ hs => slash_not_mem_of_mem_segments hs
  have hnormal := (normalStack_stack p).foldl_push hslash
  rwa [h.foldl_push] at hnormal

theorem Adds.clean_append_slash_nil {rest p : Text} (h : Adds rest []) (hp : p ≠ []) :
    clean (p ++ '/' :: rest) = clean p := by
  rw [h.clean_append_slash hp, List.nil_append, ← clean_eq_written]

theorem Adds.clean_append_slash_join {rest p : Text} {added : List Text} (h : Adds rest added)
    (hadded : added ≠ []) (hp : p ≠ []) (hstack : stack p ≠ []) :
    clean (p ++ '/' :: rest) = clean p ++ '/' :: Text.join '/' added.reverse := by
  rw [h.clean_append_slash hp, written_append hadded hstack, ← clean_eq_written]

section Climbing

variable {name : Text} {below : List Text}

theorem not_suffix_self : ¬ name :: below <:+ below := by
  intro h
  have hlen := h.length_le
  simp at hlen

theorem not_suffix_push (atRoot : Bool) {st : List Text} {s : Text}
    (h : ¬ name :: below <:+ st) (hs : s ≠ name) : ¬ name :: below <:+ push atRoot st s := by
  have hcons : ∀ t, t ≠ name → ¬ name :: below <:+ t :: st := by
    intro t ht hsuffix
    rcases List.suffix_cons_iff.1 hsuffix with heq | hsuffix
    · exact ht (List.cons.inj heq).1.symm
    · exact h hsuffix
  by_cases hblank : isBlank s = true
  · rw [push_blank _ _ hblank]
    exact h
  by_cases hup : s = up
  · subst hup
    cases st with
    | nil =>
      rw [push_up_nil]
      split
      · exact h
      · exact hcons up hs
    | cons last st =>
      by_cases hlast : last = up
      · subst hlast
        rw [push_up_up]
        split
        · exact h
        · exact hcons up hs
      · rw [push_up_cons _ hlast]
        intro hsuffix
        exact h (hsuffix.trans (List.suffix_cons last st))
  · rw [push_plain _ _ hblank hup]
    exact hcons s hs

theorem not_suffix_foldl_push (atRoot : Bool) {st segs : List Text}
    (h : ¬ name :: below <:+ st) (hsegs : name ∉ segs) :
    ¬ name :: below <:+ segs.foldl (push atRoot) st := by
  induction segs generalizing st with
  | nil => exact h
  | cons s segs ih =>
    rw [List.mem_cons, not_or] at hsegs
    exact ih (not_suffix_push atRoot h (Ne.symm hsegs.1)) hsegs.2

/-- Where the count fails, the name below is taken away for good. -/
theorem not_suffix_of_depthFrom (hname : IsName name) (atRoot : Bool) {segs : List Text}
    (top : List Text) (h : depthFrom top.length segs = none) (htop : ∀ s ∈ top, IsName s)
    (hslash : ∀ s ∈ segs, '/' ∉ s) (hsegs : name ∉ segs) :
    ¬ name :: below <:+ segs.foldl (push atRoot) (top ++ name :: below) := by
  induction segs generalizing top with
  | nil => cases h
  | cons s segs ih =>
    obtain ⟨hs, hrest⟩ := List.forall_mem_cons.1 hslash
    rw [List.mem_cons, not_or] at hsegs
    rw [List.foldl_cons]
    by_cases hblank : isBlank s = true
    · rw [depthFrom_blank _ hblank] at h
      rw [push_blank _ _ hblank]
      exact ih top h htop hrest hsegs.2
    by_cases hup : s = up
    · subst hup
      cases top with
      | nil =>
        -- This is the `..` that takes the name away. From here on it has to stay away.
        rw [List.nil_append, push_up_cons _ hname.ne_up]
        exact not_suffix_foldl_push atRoot not_suffix_self hsegs.2
      | cons last top =>
        rw [List.length_cons, depthFrom_up_succ] at h
        obtain ⟨hlast, htop⟩ := List.forall_mem_cons.1 htop
        rw [List.cons_append, push_up_cons _ hlast.ne_up]
        exact ih top h htop hrest hsegs.2
    · have hplain : IsName s := ⟨hblank, hup, hs⟩
      rw [depthFrom_plain _ hblank hup] at h
      rw [hplain.push]
      exact ih (s :: top) h (List.forall_mem_cons.2 ⟨hplain, htop⟩) hrest hsegs.2

end Climbing

end Reroute.Path
