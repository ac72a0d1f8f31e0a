import Reroute.Path.Walk
import Reroute.Proofs.NormalPaths

set_option autoImplicit false

/-!
# Normal forms and walks

The normal form of a path leads to the same place as the path, wherever the walk starts, and paths
that always lead to the same place have the same normal form. The first half follows the loop over
the segments. For the second half, a walk from a stack of fresh names shows how many names it left
and which names it added.
-/

namespace Reroute.Path

def follow (start : List Text) : List Text → List Text
  | [] => start
  | s :: st => walkStep (follow start st) s

theorem walkStep_blank (st : List Text) {s : Text} (h : isBlank s = true) : walkStep st s = st := by
  rw [walkStep, if_pos h]

theorem walkStep_up (st : List Text) : walkStep st up = st.tail := by
  rfl

theorem IsName.walkStep {s : Text} (h : IsName s) (st : List Text) : walkStep st s = s :: st := by
  rw [Path.walkStep, if_neg h.not_blank, if_neg h.ne_up]

section Loop

variable {atRoot : Bool} {start st segs : List Text} {s : Text}

/-- A walk takes the same step before and after the stack is brought into normal form. At the root
there is nothing below the stack that a `..` could leave. -/
theorem follow_push (h : NormalStack atRoot st) (hstart : atRoot = true → start = [])
    (hslash : '/' ∉ s) : follow start (push atRoot st s) = walkStep (follow start st) s := by
  by_cases hblank : isBlank s = true
  · rw [push_blank _ _ hblank, walkStep_blank _ hblank]
  by_cases hup : s = up
  · subst s
    cases h with
    | ups n hn =>
      cases atRoot with
      | true =>
        obtain rfl := hn rfl
        obtain rfl := hstart rfl
        rfl
      | false =>
        rw [push_up_replicate]
        rfl
    | name hname hst =>
      rw [push_up_cons _ hname.ne_up, follow, hname.walkStep, walkStep_up]
      rfl
  · have hname : IsName s := ⟨hblank, hup, hslash⟩
    rw [hname.push]
    rfl

theorem follow_foldl_push (h : NormalStack atRoot st) (hstart : atRoot = true → start = [])
    (hslash : ∀ s ∈ segs, '/' ∉ s) :
    follow start (segs.foldl (push atRoot) st) = segs.foldl walkStep (follow start st) := by
  induction segs generalizing st with
  | nil => rfl
  | cons s segs ih =>
    obtain ⟨hs, hsegs⟩ := List.forall_mem_cons.1 hslash
    rw [List.foldl_cons, List.foldl_cons, ih (h.push hs) hsegs, follow_push h hstart hs]

end Loop

theorem walk_eq_follow (p : Text) (start : List Text) :
    walk p start = follow (if rooted p then [] else start) (stack p) := by
  have hstart : rooted p = true → (if rooted p then [] else start) = [] := fun hroot => if_pos hroot
  exact (follow_foldl_push (.nil _) hstart fun _ hs => slash_not_mem_of_mem_segments hs).symm

theorem walk_clean (p : Text) (start : List Text) : walk (clean p) start = walk p start := by
  rw [walk_eq_follow, walk_eq_follow, rooted_clean, stack_clean]

theorem normalStack_iff {atRoot : Bool} {st : List Text} : NormalStack atRoot st ↔
    ∃ names n, st = names ++ List.replicate n up ∧ (∀ s ∈ names, IsName s) ∧
      (atRoot = true → n = 0) := by
  constructor
  · intro h
    induction h with
    | ups n hn => exact ⟨[], n, rfl, by simp, hn⟩
    | @name s st hs _ ih =>
      obtain ⟨names, n, rfl, hnames, hn⟩ := ih
      exact ⟨s :: names, n, rfl, List.forall_mem_cons.2 ⟨hs, hnames⟩, hn⟩
  · rintro ⟨names, n, rfl, hnames, hn⟩
    induction names with
    | nil => exact .ups n hn
    | cons s names ih =>
      obtain ⟨hs, hnames⟩ := List.forall_mem_cons.1 hnames
      exact .name hs (ih hnames)

theorem follow_replicate_up (start : List Text) (n : Nat) :
    follow start (List.replicate n up) = start.drop n := by
  induction n with
  | zero => rfl
  | succ n ih =>
    rw [List.replicate_succ, follow, ih, walkStep_up, List.tail_drop]

theorem follow_names {names : List Text} (h : ∀ s ∈ names, IsName s) (start st : List Text) :
    follow start (names ++ st) = names ++ follow start st := by
  induction names with
  | nil => rfl
  | cons s names ih =>
    obtain ⟨hs, hnames⟩ := List.forall_mem_cons.1 h
    rw [List.cons_append, follow, ih hnames, hs.walkStep]
    rfl

theorem exists_fresh_name (names : List Text) : ∃ s, IsName s ∧ s ∉ names := by
  refine ⟨List.replicate (names.flatten.length + 3) 'a', ⟨?_, ?_, ?_⟩, ?_⟩
  · simp [isBlank, List.replicate_succ]
  · simp [up, List.replicate_succ]
  · simp
  · intro hmem
    have hlen := (List.sublist_flatten_of_mem hmem).length_le
    rw [List.length_replicate] at hlen
    omega

/-- From enough copies of a name that neither of two stacks has, each walk leaves as many copies as
the other one goes up. -/
theorem NormalStack.exists_start {atRoot : Bool} {st st' : List Text} (h : NormalStack atRoot st)
    (h' : NormalStack atRoot st') : ∃ start fresh names names' n n',
      (∀ s ∈ start, IsName s) ∧ (atRoot = true → start = []) ∧ fresh ∉ names ∧ fresh ∉ names' ∧
      st = names ++ List.replicate n up ∧ follow start st = names ++ List.replicate n' fresh ∧
      st' = names' ++ List.replicate n' up ∧
      follow start st' = names' ++ List.replicate n fresh := by
  obtain ⟨names, n, rfl, hnames, hn⟩ := normalStack_iff.1 h
  obtain ⟨names', n', rfl, hnames', hn'⟩ := normalStack_iff.1 h'
  obtain ⟨fresh, hname, hfresh⟩ := exists_fresh_name (names ++ names')
  rw [List.mem_append, not_or] at hfresh
  refine ⟨List.replicate (n + n') fresh, fresh, names, names', n, n',
    fun s hs => List.eq_of_mem_replicate hs ▸ hname, fun hroot => ?_, hfresh.1, hfresh.2, rfl, ?_,
    rfl, ?_⟩
  · rw [hn hroot, hn' hroot]
    rfl
  · rw [follow_names hnames, follow_replicate_up, List.drop_replicate, Nat.add_sub_cancel_left]
  · rw [follow_names hnames', follow_replicate_up, List.drop_replicate, Nat.add_sub_cancel]

/-- Two stacks in normal form that lead to the same place from all stacks of names are the same. -/
theorem NormalStack.eq_of_follow {atRoot : Bool} {st st' : List Text} (h : NormalStack atRoot st)
    (h' : NormalStack atRoot st') (hsame : ∀ start, (∀ s ∈ start, IsName s) →
      (atRoot = true → start = []) → follow start st = follow start st') : st = st' := by
  obtain ⟨start, fresh, names, names', n, n', hnames, hroot, hfresh, hfresh', rfl, hfollow, rfl,
    hfollow'⟩ := h.exists_start h'
  have hfrom := hsame start hnames hroot
  rw [hfollow, hfollow'] at hfrom
  have hcount := congrArg (List.count fresh) hfrom
  rw [List.count_append, List.count_append, List.count_eq_zero_of_not_mem hfresh,
    List.count_eq_zero_of_not_mem hfresh', List.count_replicate_self,
    List.count_replicate_self] at hcount
  obtain rfl : n' = n := by omega
  rw [List.append_cancel_right hfrom]

theorem eq_and_suffix_of_replicate {α : Type} {a : α} {l l' : List α} {n n' : Nat} (hl : l ≠ [])
    (ha : a ∉ l) (ha' : a ∉ l') (h : l ++ List.replicate n a <:+ l' ++ List.replicate n' a) :
    n = n' ∧ l <:+ l' := by
  obtain ⟨t, ht⟩ := h
  rw [← List.append_assoc] at ht
  rcases List.append_eq_append_iff.1 ht with ⟨more, hmore, hrep⟩ | ⟨more, hmore, hrep⟩
  · -- What `l'` has behind `l` are copies of `a`, and `l'` has none.
    have hnil : more = [] := List.eq_nil_iff_forall_not_mem.2 fun x hx => by
      have hxa : x ∈ List.replicate n a := hrep ▸ List.mem_append_left _ hx
      rw [List.eq_of_mem_replicate hxa] at hx
      exact ha' (hmore ▸ List.mem_append_right _ hx)
    subst hnil
    exact ⟨List.replicate_left_injective a hrep, t, (List.append_nil _ ▸ hmore).symm⟩
  · rcases List.eq_nil_or_concat' more with rfl | ⟨front, x, rfl⟩
    · exact ⟨(List.replicate_left_injective a hrep).symm, t, hmore.trans (List.append_nil _)⟩
    · -- The last item of `l` would be a copy of `a`.
      have hxa : x ∈ List.replicate n' a := by simp [hrep]
      rw [List.eq_of_mem_replicate hxa] at hmore
      have hlast := congrArg List.getLast? hmore
      rw [List.getLast?_append_of_ne_nil _ hl, ← List.append_assoc, List.getLast?_concat] at hlast
      exact absurd (List.mem_of_getLast? hlast) ha

/-- A stack in normal form with a name on top is the end of another just if its place is the end of
the other's place from everywhere. -/
theorem NormalStack.suffix_iff_follow {atRoot : Bool} {s : Text} {below st' : List Text}
    (h : NormalStack atRoot (s :: below)) (hs : IsName s) (h' : NormalStack atRoot st') :
    s :: below <:+ st' ↔ ∀ start, (∀ s ∈ start, IsName s) → (atRoot = true → start = []) →
      follow start (s :: below) <:+ follow start st' := by
  constructor
  · rintro ⟨top, rfl⟩ start - -
    rw [follow_names fun t ht => h'.isName_of_mem hs.ne_up t ht]
    exact List.suffix_append top _
  · intro hfollow
    obtain ⟨start, fresh, names, names', n, n', hnames, hroot, hfresh, hfresh', hst, hleft, rfl,
      hleft'⟩ := h.exists_start h'
    have hne : names ≠ [] := by
      rintro rfl
      have hmem : s ∈ List.replicate n up := by
        rw [List.nil_append] at hst
        exact hst ▸ List.mem_cons_self
      exact hs.ne_up (List.eq_of_mem_replicate hmem)
    have hfrom := hfollow start hnames hroot
    rw [hleft, hleft'] at hfrom
    obtain ⟨rfl, top, rfl⟩ := eq_and_suffix_of_replicate hne hfresh hfresh' hfrom
    rw [hst, List.append_assoc]
    exact List.suffix_append top _

theorem clean_eq_clean_iff {p q : Text} : clean p = clean q ↔
    rooted p = rooted q ∧ ∀ start, (∀ s ∈ start, IsName s) → walk p start = walk q start := by
  constructor
  · intro h
    refine ⟨?_, fun start _ => ?_⟩
    · rw [← rooted_clean p, h, rooted_clean]
    · rw [← walk_clean p, h, walk_clean]
  · rintro ⟨hroot, hwalk⟩
    have hstack : stack p = stack q := by
      have hq := normalStack_stack q
      rw [← hroot] at hq
      refine (normalStack_stack p).eq_of_follow hq fun start hnames hstart => ?_
      have hfrom := hwalk start hnames
      rw [walk_eq_follow, walk_eq_follow, ← hroot] at hfrom
      by_cases hp : rooted p = true
      · rwa [if_pos hp, ← hstart hp] at hfrom
      · rwa [if_neg hp] at hfrom
    rw [clean_eq_written, clean_eq_written, hroot, hstack]

/-- A path in normal form: `.` alone, names below the root, or names behind any number of `..`. -/
inductive Canonical : Text → Prop where
  | here : Canonical ['.']
  | absolute {names : List Text} (h : ∀ s ∈ names, IsName s) :
      Canonical ('/' :: Text.join '/' names)
  | relative {ups : Nat} {names : List Text} (h : ∀ s ∈ names, IsName s)
      (hne : List.replicate ups up ++ names ≠ []) :
      Canonical (Text.join '/' (List.replicate ups up ++ names))

theorem NormalStack.canonical_written {atRoot : Bool} {st : List Text}
    (h : NormalStack atRoot st) : Canonical (written atRoot st) := by
  obtain ⟨names, n, hst, hnames, hn⟩ := normalStack_iff.1 h
  have hreverse : st.reverse = List.replicate n up ++ names.reverse := by
    rw [hst, List.reverse_append, List.reverse_replicate]
  have hmem : ∀ s ∈ names.reverse, IsName s := fun s hs => hnames s (List.mem_reverse.1 hs)
  cases atRoot with
  | true =>
    rw [hn rfl] at hreverse
    rw [written, if_pos rfl, hreverse]
    exact .absolute hmem
  | false =>
    by_cases hempty : st = []
    · rw [hempty]
      exact .here
    · rw [written, if_neg Bool.false_ne_true, if_neg hempty, hreverse]
      refine .relative hmem ?_
      rw [← hreverse]
      simpa using hempty

theorem canonical_clean (p : Text) : Canonical (clean p) := by
  rw [clean_eq_written]
  exact (normalStack_stack p).canonical_written

/-- The normal form is a canonical name of the place that a path denotes. -/
theorem clean_is_canonical (p : Text) :
    rooted (clean p) = rooted p ∧ (∀ start, walk (clean p) start = walk p start) ∧
    (∀ q, clean p = clean q ↔
      rooted p = rooted q ∧ ∀ start, (∀ s ∈ start, IsName s) → walk p start = walk q start) ∧
    clean (clean p) = clean p ∧ Canonical (clean p) :=
  ⟨rooted_clean p, walk_clean p, fun _ => clean_eq_clean_iff, clean_idem p, canonical_clean p⟩

example : clean "a/../..//b/./".toList = "../b".toList := by rfl

end Reroute.Path
