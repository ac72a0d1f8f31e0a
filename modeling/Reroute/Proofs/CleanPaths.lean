import Reroute.Path.Lexical
import Reroute.Proofs.Pieces

set_option autoImplicit false

namespace Reroute.Path

theorem segments_ne_nil (p : Text) : segments p ≠ [] :=
  Text.split_ne_nil '/' p

theorem join_segments (p : Text) : Text.join '/' (segments p) = p :=
  Text.join_split '/' p

theorem slash_not_mem_of_mem_segments {p s : Text} (h : s ∈ segments p) : '/' ∉ s :=
  Text.sep_not_mem_of_mem_split h

theorem segments_slash (p : Text) : segments ('/' :: p) = [] :: segments p :=
  Text.split_cons_sep '/' p

theorem segments_append_slash (p q : Text) :
    segments (p ++ '/' :: q) = segments p ++ segments q :=
  Text.split_append_sep '/' p q

theorem exists_of_rooted {p : Text} (h : rooted p = true) : ∃ rest, p = '/' :: rest := by
  cases p with
  | nil => cases h
  | cons c rest => exact ⟨rest, by simpa [rooted] using h⟩

theorem push_blank (atRoot : Bool) (st : List Text) {s : Text} (h : isBlank s = true) :
    push atRoot st s = st := by
  simp only [push, h, if_true]

theorem push_up_nil (atRoot : Bool) :
    push atRoot [] up = if atRoot then [] else [up] := by
  rfl

theorem push_up_up (atRoot : Bool) (below : List Text) :
    push atRoot (up :: below) up = if atRoot then up :: below else up :: up :: below := by
  rfl

theorem push_up_cons (atRoot : Bool) {last : Text} (h : last ≠ up) (below : List Text) :
    push atRoot (last :: below) up = below := by
  have hup : isBlank up = false := rfl
  simp only [push, hup, h, if_true, if_false, Bool.false_eq_true]

theorem push_plain (atRoot : Bool) (st : List Text) {s : Text} (hblank : ¬ isBlank s = true)
    (hup : s ≠ up) : push atRoot st s = s :: st := by
  rw [push.eq_def, if_neg hblank, if_neg hup]

theorem mem_push {atRoot : Bool} {st : List Text} {s t : Text} (h : t ∈ push atRoot st s) :
    t ∈ st ∨ (t = s ∧ ¬ isBlank s = true) := by
  by_cases hblank : isBlank s = true
  · rw [push_blank _ _ hblank] at h
    exact .inl h
  by_cases hup : s = up
  · subst hup
    cases st with
    | nil => cases atRoot <;> simp_all [push_up_nil]
    | cons last below =>
      by_cases hlast : last = up
      · subst hlast
        cases atRoot <;> simp_all [push_up_up]
      · rw [push_up_cons _ hlast] at h
        exact .inl (List.mem_cons_of_mem _ h)
  · rw [push_plain _ _ hblank hup, List.mem_cons] at h
    exact h.symm.imp_right fun ht => ⟨ht, hblank⟩

theorem mem_foldl_push {atRoot : Bool} {st segs : List Text} {t : Text}
    (h : t ∈ segs.foldl (push atRoot) st) : t ∈ st ∨ (t ∈ segs ∧ ¬ isBlank t = true) := by
  induction segs generalizing st with
  | nil => exact .inl h
  | cons s segs ih =>
    rcases ih h with h | ⟨h, hblank⟩
    · rcases mem_push h with h | ⟨rfl, hblank⟩
      · exact .inl h
      · exact .inr ⟨List.mem_cons_self, hblank⟩
    · exact .inr ⟨List.mem_cons_of_mem _ h, hblank⟩

theorem foldl_push_eq_nil {atRoot : Bool} {st segs : List Text}
    (h : segs.foldl (push atRoot) st = []) (hup : up ∉ segs) :
    st = [] ∧ ∀ s ∈ segs, isBlank s = true := by
  induction segs generalizing st with
  | nil => exact ⟨h, by simp⟩
  | cons s segs ih =>
    rw [List.mem_cons, not_or] at hup
    obtain ⟨hpush, hsegs⟩ := ih h hup.2
    by_cases hblank : isBlank s = true
    · rw [push_blank _ _ hblank] at hpush
      exact ⟨hpush, List.forall_mem_cons.2 ⟨hblank, hsegs⟩⟩
    · rw [push_plain _ _ hblank (Ne.symm hup.1)] at hpush
      cases hpush

/-- The segments that are joined are those of the result, unless there are none. -/
theorem segments_join_foldl_push (atRoot : Bool) {segs : List Text}
    (hslash : ∀ s ∈ segs, '/' ∉ s) :
    segs.foldl (push atRoot) [] = [] ∨
      segments (Text.join '/' (segs.foldl (push atRoot) []).reverse) =
        (segs.foldl (push atRoot) []).reverse := by
  rcases eq_or_ne (segs.foldl (push atRoot) []) [] with h | h
  · exact .inl h
  · refine .inr (Text.split_join (by simpa using h) fun s hs => ?_)
    rcases mem_foldl_push (List.mem_reverse.1 hs) with hs | ⟨hs, -⟩
    · cases hs
    · exact hslash s hs

theorem clean_slash (p : Text) : clean ('/' :: p) =
    '/' :: Text.join '/' ((segments p).foldl (push true) []).reverse := by
  have hrooted : rooted ('/' :: p) = true := rfl
  simp only [clean, stack, hrooted, segments_slash, List.foldl_cons, if_true]
  rfl

theorem join_foldl_push_eq_nil_iff {atRoot : Bool} {segs : List Text} :
    Text.join '/' (segs.foldl (push atRoot) []).reverse = [] ↔
      segs.foldl (push atRoot) [] = [] := by
  refine ⟨fun h => ?_, fun h => by rw [h]; rfl⟩
  by_contra hne
  refine Text.join_ne_nil (by simpa using hne) (fun hmem => ?_) h
  rcases mem_foldl_push (List.mem_reverse.1 hmem) with hmem | ⟨-, hblank⟩
  · cases hmem
  · exact hblank rfl

theorem clean_relative {p : Text} (h : rooted p = false) : clean p =
    if (segments p).foldl (push false) [] = [] then ['.']
    else Text.join '/' ((segments p).foldl (push false) []).reverse := by
  simp only [clean, stack, h, List.isEmpty_iff, join_foldl_push_eq_nil_iff, Bool.false_eq_true,
    if_false]

end Reroute.Path
