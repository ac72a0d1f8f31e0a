import Reroute.Proofs.VersionBumps

set_option autoImplicit false

/-!
# The weight of a path

A measure that every move to another major version makes smaller. A place without a major version,
between two neighbours that declare none, weighs more than any version that may be put there, and
a version weighs what is left between it and the largest one. A `..` weighs enough for whatever it
removes. Taking the normal form of a path never makes it heavier.
-/

namespace Reroute.Path

def gap : Nat :=
  maxMajor + 1

/-- The weight of segments behind one that declares a major version or does not. -/
def weightFrom : Bool → List Text → Nat
  | versioned, [] => if versioned then 0 else gap
  | versioned, s :: rest =>
    match Version.suffix? s with
    | some major => (maxMajor - major) + weightFrom true rest
    | none =>
      (if versioned then 0 else gap) + (if s = up then 2 * gap else 0) + weightFrom false rest

def weight (p : Text) : Nat :=
  weightFrom false (segments p)

theorem weightFrom_version (versioned : Bool) {s : Text} {major : Nat}
    (h : Version.suffix? s = some major) (rest : List Text) :
    weightFrom versioned (s :: rest) = (maxMajor - major) + weightFrom true rest := by
  rw [weightFrom, h]

theorem weightFrom_plain (versioned : Bool) {s : Text} (h : Version.suffix? s = none)
    (rest : List Text) : weightFrom versioned (s :: rest) =
      (if versioned then 0 else gap) + (if s = up then 2 * gap else 0) + weightFrom false rest := by
  rw [weightFrom, h]

theorem weightFrom_le_false (versioned : Bool) (segs : List Text) :
    weightFrom versioned segs ≤ weightFrom false segs := by
  cases versioned with
  | false => exact Nat.le_refl _
  | true =>
    cases segs with
    | nil => exact Nat.zero_le _
    | cons s rest =>
      cases h : Version.suffix? s with
      | some major => rw [weightFrom_version _ h, weightFrom_version _ h]
      | none =>
        rw [weightFrom_plain _ h, weightFrom_plain _ h]
        simp

theorem weightFrom_false_eq {segs : List Text}
    (h : ∀ s ∈ segs.head?, Version.suffix? s = none) :
    weightFrom false segs = gap + weightFrom true segs := by
  cases segs with
  | nil => rfl
  | cons s rest =>
    have hs := h s rfl
    rw [weightFrom_plain _ hs, weightFrom_plain _ hs]
    simp [Nat.add_assoc]

def endsVersioned : Bool → List Text → Bool
  | versioned, [] => versioned
  | _, s :: rest => endsVersioned (Version.suffix? s).isSome rest

theorem endsVersioned_append_singleton (versioned : Bool) (segs : List Text) (s : Text) :
    endsVersioned versioned (segs ++ [s]) = (Version.suffix? s).isSome := by
  induction segs generalizing versioned with
  | nil => rfl
  | cons t segs ih => exact ih _

theorem exists_weightFrom_append (versioned : Bool) (segs : List Text) :
    ∃ n, ∀ rest, weightFrom versioned (segs ++ rest) =
      n + weightFrom (endsVersioned versioned segs) rest := by
  induction segs generalizing versioned with
  | nil => exact ⟨0, fun rest => (Nat.zero_add _).symm⟩
  | cons s segs ih =>
    cases h : Version.suffix? s with
    | some major =>
      obtain ⟨n, hn⟩ := ih true
      refine ⟨maxMajor - major + n, fun rest => ?_⟩
      rw [List.cons_append, weightFrom_version _ h, hn, endsVersioned, h, Nat.add_assoc]
      rfl
    | none =>
      obtain ⟨n, hn⟩ := ih false
      refine ⟨(if versioned then 0 else gap) + (if s = up then 2 * gap else 0) + n, fun rest => ?_⟩
      rw [List.cons_append, weightFrom_plain _ h, hn, endsVersioned, h,
        Nat.add_assoc _ n]
      rfl

theorem weightFrom_append_le (versioned : Bool) (segs : List Text) {rest rest' : List Text}
    (h : ∀ b, weightFrom b rest ≤ weightFrom b rest') :
    weightFrom versioned (segs ++ rest) ≤ weightFrom versioned (segs ++ rest') := by
  obtain ⟨n, hn⟩ := exists_weightFrom_append versioned segs
  rw [hn, hn]
  exact Nat.add_le_add_left (h _) n

theorem weightFrom_le_plain_cons (versioned : Bool) {s : Text} (h : Version.suffix? s = none)
    (rest : List Text) : weightFrom versioned rest ≤ weightFrom versioned (s :: rest) := by
  have hle := weightFrom_le_false versioned rest
  rw [weightFrom_plain _ h]
  omega

theorem weightFrom_le_replicate_nil_append (versioned : Bool) (n : Nat) (segs : List Text) :
    weightFrom versioned segs ≤ weightFrom versioned (List.replicate n [] ++ segs) := by
  induction n with
  | zero => exact Nat.le_refl _
  | succ n ih =>
    rw [List.replicate_succ, List.cons_append]
    exact ih.trans (weightFrom_le_plain_cons versioned Version.suffix?_nil _)

theorem weightFrom_trimSlashes_le (versioned : Bool) (dir : Text) (segs : List Text) :
    weightFrom versioned (segments (Text.trimSlashes dir) ++ segs) ≤
      weightFrom versioned (segments dir ++ segs) := by
  obtain ⟨n, hn⟩ : ∃ n, segments dir = segments (Text.trimSlashes dir) ++ List.replicate n [] :=
    Text.split_eq_split_trimSlashes_append dir
  rw [hn, List.append_assoc]
  exact weightFrom_append_le _ _ fun b => weightFrom_le_replicate_nil_append b n segs

theorem weightFrom_segment_lt_of_place (versioned : Bool) (front : List Text) {last : Text}
    (hlast : Version.suffix? last = none) {target : Nat} (htarget : target ≤ maxMajor)
    {rest : List Text} (hrest : ∀ s ∈ rest.head?, Version.suffix? s = none) :
    weightFrom versioned (front ++ [last] ++ Version.segment target :: rest) <
      weightFrom versioned (front ++ [last] ++ rest) := by
  obtain ⟨n, hn⟩ := exists_weightFrom_append versioned (front ++ [last])
  rw [hn, hn, endsVersioned_append_singleton, hlast, Option.isSome_none,
    weightFrom_version _ (Version.suffix?_segment htarget), weightFrom_false_eq hrest, gap]
  omega

theorem weightFrom_segment_lt_of_version (versioned : Bool) (front : List Text) {last : Text}
    {major target : Nat} (hlast : Version.suffix? last = some major) (hlt : major < target)
    (htarget : target ≤ maxMajor) (rest : List Text) :
    weightFrom versioned (front ++ Version.segment target :: rest) <
      weightFrom versioned (front ++ last :: rest) := by
  obtain ⟨n, hn⟩ := exists_weightFrom_append versioned front
  rw [hn, hn, weightFrom_version _ (Version.suffix?_segment htarget), weightFrom_version _ hlast]
  omega

/-- A `..` makes up for the segment that it removes, whether that declares a version or not. -/
theorem weightFrom_le_cons_up (versioned : Bool) (s : Text) (rest : List Text) :
    weightFrom versioned rest ≤ weightFrom versioned (s :: up :: rest) := by
  cases h : Version.suffix? s with
  | none =>
    exact (weightFrom_le_plain_cons _ Version.suffix?_up _).trans (weightFrom_le_plain_cons _ h _)
  | some major =>
    have hle := weightFrom_le_false versioned rest
    rw [weightFrom_version _ h, weightFrom_plain _ Version.suffix?_up]
    omega

/-- Adding a segment to a normal form is never heavier than writing it behind. -/
theorem weightFrom_push_le (versioned atRoot : Bool) (st : List Text) (s : Text)
    (rest : List Text) : weightFrom versioned ((push atRoot st s).reverse ++ rest) ≤
      weightFrom versioned (st.reverse ++ s :: rest) := by
  have hdrop : Version.suffix? s = none →
      weightFrom versioned (st.reverse ++ rest) ≤ weightFrom versioned (st.reverse ++ s :: rest) :=
    fun hs => weightFrom_append_le _ _ fun b => weightFrom_le_plain_cons b hs rest
  have hkeep : weightFrom versioned ((s :: st).reverse ++ rest) ≤
      weightFrom versioned (st.reverse ++ s :: rest) := by
    rw [List.reverse_cons, List.append_assoc, List.singleton_append]
  by_cases hblank : isBlank s = true
  · rw [push_blank _ _ hblank]
    exact hdrop (Version.suffix?_of_isBlank hblank)
  by_cases hup : s = up
  · subst hup
    cases st with
    | nil =>
      cases atRoot with
      | true => exact hdrop Version.suffix?_up
      | false => exact hkeep
    | cons last below =>
      by_cases hlast : last = up
      · subst hlast
        cases atRoot with
        | true => exact hdrop Version.suffix?_up
        | false => exact hkeep
      · -- The `..` pays for the segment that it takes away.
        rw [push_up_cons _ hlast, List.reverse_cons, List.append_assoc, List.singleton_append]
        exact weightFrom_append_le _ _ fun b => weightFrom_le_cons_up b last rest
  · rw [push_plain _ _ hblank hup]
    exact hkeep

theorem weightFrom_foldl_push_le (versioned atRoot : Bool) (st segs : List Text) :
    weightFrom versioned (segs.foldl (push atRoot) st).reverse ≤
      weightFrom versioned (st.reverse ++ segs) := by
  induction segs generalizing st with
  | nil => rw [List.append_nil, List.foldl_nil]
  | cons s segs ih => exact (ih _).trans (weightFrom_push_le versioned atRoot st s segs)

theorem two_gap_le_of_up_mem (versioned : Bool) {segs : List Text} (h : up ∈ segs) :
    2 * gap ≤ weightFrom versioned segs := by
  induction segs generalizing versioned with
  | nil => cases h
  | cons s segs ih =>
    rcases List.mem_cons.1 h with rfl | h
    · rw [weightFrom_plain _ Version.suffix?_up, if_pos rfl]
      omega
    · cases hs : Version.suffix? s with
      | none => exact (ih _ h).trans (weightFrom_le_plain_cons _ hs _)
      | some major =>
        rw [weightFrom_version _ hs]
        exact (ih _ h).trans (Nat.le_add_left _ _)

theorem gap_le_of_blank {segs : List Text} (h : ∀ s ∈ segs, isBlank s = true) :
    gap ≤ weightFrom false segs := by
  rw [weightFrom_false_eq fun s hs => Version.suffix?_of_isBlank (h s (List.mem_of_mem_head? hs))]
  exact Nat.le_add_right _ _

theorem two_gap_le_of_foldl_push_eq_nil {atRoot : Bool} {segs : List Text} (hne : segs ≠ [])
    (h : segs.foldl (push atRoot) [] = []) : 2 * gap ≤ weightFrom false segs := by
  by_cases hup : up ∈ segs
  · exact two_gap_le_of_up_mem false hup
  · obtain ⟨-, hblank⟩ := foldl_push_eq_nil h hup
    cases segs with
    | nil => exact absurd rfl hne
    | cons s segs =>
      have hs := Version.suffix?_of_isBlank (hblank s List.mem_cons_self)
      have hsegs := gap_le_of_blank fun t ht => hblank t (List.mem_cons_of_mem _ ht)
      rw [weightFrom_plain _ hs]
      simp only [Bool.false_eq_true, if_false]
      omega

theorem weight_join_foldl_push_le (atRoot : Bool) (p : Text) :
    weight (Text.join '/' ((segments p).foldl (push atRoot) []).reverse) ≤ weight p := by
  rcases segments_join_foldl_push atRoot fun s hs => slash_not_mem_of_mem_segments hs with h | h
  · rw [h]
    exact two_gap_le_of_foldl_push_eq_nil (segments_ne_nil p) h
  · rw [weight, h]
    exact weightFrom_foldl_push_le false atRoot [] (segments p)

theorem weight_slash (p : Text) : weight ('/' :: p) = gap + weight p := by
  rw [weight, segments_slash, weightFrom_plain _ Version.suffix?_nil]
  rfl

/-- Taking the normal form never makes a path heavier. -/
theorem weight_clean_le (p : Text) : weight (clean p) ≤ weight p := by
  by_cases h : rooted p = true
  · obtain ⟨rest, rfl⟩ := exists_of_rooted h
    rw [clean_slash, weight_slash, weight_slash]
    exact Nat.add_le_add_left (weight_join_foldl_push_le true rest) _
  · rw [clean_relative (Bool.eq_false_iff.2 h)]
    split_ifs with hempty
    · exact two_gap_le_of_foldl_push_eq_nil (segments_ne_nil p) hempty
    · exact weight_join_foldl_push_le false p

end Reroute.Path
