import Mathlib
import Reroute.Text

set_option autoImplicit false

namespace Reroute.Text

theorem split_ne_nil (sep : Char) (t : Text) : split sep t ≠ [] := by
  cases t with
  | nil => simp [split]
  | cons c t =>
    simp only [split]
    split
    · simp
    · split <;> simp

@[simp] theorem split_nil (sep : Char) : split sep [] = [[]] := rfl

@[simp] theorem split_cons_sep (sep : Char) (t : Text) :
    split sep (sep :: t) = [] :: split sep t := by
  simp [split]

theorem split_append_sep (sep : Char) (t u : Text) :
    split sep (t ++ sep :: u) = split sep t ++ split sep u := by
  induction t with
  | nil => simp
  | cons c t ih =>
    by_cases hc : c = sep
    · subst c
      simp [ih]
    · simp only [List.cons_append, split, hc, if_false, ih]
      cases ht : split sep t with
      | nil => exact absurd ht (split_ne_nil sep t)
      | cons piece pieces => rfl

theorem split_eq_singleton {sep : Char} {t : Text} (h : sep ∉ t) : split sep t = [t] := by
  induction t with
  | nil => rfl
  | cons c t ih =>
    rw [List.mem_cons, not_or] at h
    obtain ⟨hc, ht⟩ := h
    simp only [split, Ne.symm hc, if_false, ih ht]

theorem sep_not_mem_of_mem_split {sep : Char} {t piece : Text} (h : piece ∈ split sep t) :
    sep ∉ piece := by
  induction t generalizing piece with
  | nil => simp_all
  | cons c t ih =>
    by_cases hc : c = sep
    · subst c
      rw [split_cons_sep, List.mem_cons] at h
      rcases h with rfl | h
      · simp
      · exact ih h
    · simp only [split, hc, if_false] at h
      cases ht : split sep t with
      | nil => exact absurd ht (split_ne_nil sep t)
      | cons first pieces =>
        rw [ht] at h ih
        rcases List.mem_cons.1 h with rfl | h
        · rw [List.mem_cons, not_or]
          exact ⟨Ne.symm hc, ih List.mem_cons_self⟩
        · exact ih (List.mem_cons_of_mem _ h)

/-- Joined pieces that hold no separator are found again. -/
theorem split_join {sep : Char} {pieces : List Text} (hne : pieces ≠ [])
    (h : ∀ piece ∈ pieces, sep ∉ piece) : split sep (join sep pieces) = pieces := by
  induction pieces with
  | nil => exact absurd rfl hne
  | cons piece pieces ih =>
    have hpiece := h piece List.mem_cons_self
    cases pieces with
    | nil => exact split_eq_singleton hpiece
    | cons next pieces =>
      have hrest := ih (by simp) fun p hp => h p (List.mem_cons_of_mem _ hp)
      rw [join, split_append_sep, split_eq_singleton hpiece, hrest]
      rfl

theorem join_split (sep : Char) (t : Text) : join sep (split sep t) = t := by
  induction t with
  | nil => rfl
  | cons c t ih =>
    cases ht : split sep t with
    | nil => exact absurd ht (split_ne_nil sep t)
    | cons piece pieces =>
      rw [ht] at ih
      by_cases hc : c = sep
      · subst c
        rw [split_cons_sep, ht, join, ih]
        rfl
      · have hsplit : split sep (c :: t) = (c :: piece) :: pieces := by
          simp only [split, hc, if_false, ht]
        rw [hsplit]
        cases pieces with
        | nil => exact congrArg (c :: ·) ih
        | cons next pieces => exact congrArg (c :: ·) ih

theorem join_append {sep : Char} {front back : List Text} (hfront : front ≠ [])
    (hback : back ≠ []) : join sep (front ++ back) = join sep front ++ sep :: join sep back := by
  induction front with
  | nil => exact absurd rfl hfront
  | cons piece front ih =>
    cases front with
    | nil =>
      obtain ⟨next, back, rfl⟩ := List.exists_cons_of_ne_nil hback
      rfl
    | cons next front =>
      have hrest := ih (List.cons_ne_nil next front)
      change piece ++ sep :: join sep (next :: front ++ back) =
        (piece ++ sep :: join sep (next :: front)) ++ sep :: join sep back
      rw [hrest, List.append_assoc]
      rfl

theorem join_ne_nil {sep : Char} {pieces : List Text} (hne : pieces ≠ [])
    (h : [] ∉ pieces) : join sep pieces ≠ [] := by
  cases pieces with
  | nil => exact absurd rfl hne
  | cons piece pieces =>
    cases pieces with
    | nil => exact fun hp => h (by simp_all [join])
    | cons next pieces => simp [join]

theorem dropPrefix?_eq_some_iff {p t rest : Text} :
    dropPrefix? p t = some rest ↔ t = p ++ rest := by
  induction p generalizing t with
  | nil => simp [dropPrefix?]
  | cons c p ih =>
    cases t with
    | nil => simp [dropPrefix?]
    | cons d t =>
      by_cases hc : c = d
      · subst d
        simp [dropPrefix?, ih]
      · simp [dropPrefix?, hc, Ne.symm hc]

theorem eq_trimSlashes_append (t : Text) :
    ∃ n, t = trimSlashes t ++ List.replicate n '/' := by
  refine ⟨(t.reverse.takeWhile (· == '/')).length, ?_⟩
  have hslashes : t.reverse.takeWhile (· == '/') =
      List.replicate (t.reverse.takeWhile (· == '/')).length '/' := by
    refine List.eq_replicate_iff.2 ⟨rfl, fun c hc => ?_⟩
    simpa using List.mem_takeWhile_imp hc
  have hsplit := congrArg List.reverse
    (List.takeWhile_append_dropWhile (p := (· == '/')) (l := t.reverse))
  rw [hslashes, List.reverse_append, List.reverse_replicate, List.reverse_reverse] at hsplit
  exact hsplit.symm

theorem trimEndWhere_append_singleton {drop : Char → Bool} (t : Text) {c : Char}
    (hc : drop c = true) : trimEndWhere drop (t ++ [c]) = trimEndWhere drop t := by
  simp [trimEndWhere, hc]

theorem trimSlashes_append_slash (t : Text) : trimSlashes (t ++ ['/']) = trimSlashes t :=
  trimEndWhere_append_singleton t rfl

theorem getLast?_trimSlashes (t : Text) : (trimSlashes t).getLast? ≠ some '/' := by
  rw [trimSlashes, trimEndWhere, List.getLast?_reverse]
  intro hlast
  have hhead := List.head?_dropWhile_not (· == '/') t.reverse
  rw [hlast] at hhead
  exact absurd hhead (by decide)

/-- A text that ends in a slash does not begin what is left of it without its slashes. -/
theorem trimSlashes_ne_append {t : Text} (h : t.getLast? = some '/') (rest : Text) :
    trimSlashes t ≠ t ++ rest := by
  intro hrest
  obtain ⟨n, hn⟩ := eq_trimSlashes_append t
  have hself : trimSlashes t = t := by
    have hlengths := congrArg List.length hn
    rw [hrest, List.length_append, List.length_append, List.length_replicate] at hlengths
    have hnil : rest = [] := List.length_eq_zero_iff.1 (by omega)
    rw [hrest, hnil, List.append_nil]
  exact getLast?_trimSlashes t (hself.symm ▸ h)

theorem trimSlashes_append (t : Text) {s : Text} (hne : s ≠ []) (h : '/' ∉ s) :
    trimSlashes (t ++ s) = t ++ s := by
  obtain ⟨front, c, rfl⟩ := List.eq_nil_or_concat s |>.resolve_left hne
  have hc : c ≠ '/' := by
    rintro rfl
    exact h (by simp)
  simp [trimSlashes, trimEndWhere, hc]

theorem trimSlashes_eq_self {t : Text} (h : t.getLast? ≠ some '/') : trimSlashes t = t := by
  rcases List.eq_nil_or_concat t with rfl | ⟨front, c, rfl⟩
  · rfl
  · rw [List.concat_eq_append, List.getLast?_concat] at h
    have hslash : '/' ∉ [c] := by
      intro hc
      exact h (congrArg some (List.mem_singleton.1 hc).symm)
    rw [List.concat_eq_append]
    exact trimSlashes_append front (List.cons_ne_nil c []) hslash

theorem trimSlashes_replicate (n : Nat) : trimSlashes (List.replicate n '/') = [] := by
  induction n with
  | zero => rfl
  | succ n ih =>
    rw [List.replicate_succ', trimSlashes_append_slash]
    exact ih

theorem trimSlashes_idem (t : Text) : trimSlashes (trimSlashes t) = trimSlashes t :=
  trimSlashes_eq_self (getLast?_trimSlashes t)

theorem split_replicate (sep : Char) (n : Nat) :
    split sep (List.replicate n sep) = List.replicate (n + 1) [] := by
  induction n with
  | zero => rfl
  | succ n ih => rw [List.replicate_succ, split_cons_sep, ih, List.replicate_succ (n := n + 1)]

theorem split_eq_split_trimSlashes_append (t : Text) :
    ∃ n, split '/' t = split '/' (trimSlashes t) ++ List.replicate n [] := by
  obtain ⟨n, hn⟩ := eq_trimSlashes_append t
  cases n with
  | zero => exact ⟨0, by simpa using congrArg (split '/') hn⟩
  | succ n =>
    refine ⟨n + 1, ?_⟩
    conv_lhs => rw [hn]
    rw [List.replicate_succ, split_append_sep, split_replicate]

end Reroute.Text
