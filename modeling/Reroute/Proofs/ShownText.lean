import Reroute.Diagnostic.Plain
import Reroute.Proofs.Numerals
import Reroute.Proofs.Pieces

set_option autoImplicit false

namespace Reroute

def ControlFree (t : Text) : Prop :=
  ∀ c ∈ t, ' ' ≤ c

def shownChar (c : Char) : Text :=
  (escapeControl? c).getD [c]

def shownText (t : Text) : Text :=
  t.flatMap shownChar

theorem ControlFree.append {t u : Text} (ht : ControlFree t) (hu : ControlFree u) :
    ControlFree (t ++ u) := by
  intro c hc
  rcases List.mem_append.1 hc with hc | hc
  · exact ht c hc
  · exact hu c hc

theorem ControlFree.not_mem {t : Text} (h : ControlFree t) {c : Char} (hc : c < ' ') : c ∉ t :=
  fun hmem => absurd (h c hmem) (not_le.2 hc)

theorem controlFree_replicate {c : Char} (h : ' ' ≤ c) (n : Nat) :
    ControlFree (List.replicate n c) := by
  intro d hd
  rw [List.eq_of_mem_replicate hd]
  exact h

theorem controlFree_decimal (n : Nat) : ControlFree (Text.decimal n) := by
  intro c hc
  have hdigit := (Text.numeral_decimal n).2 c hc
  rw [Char.isDigit, Bool.and_eq_true, decide_eq_true_eq] at hdigit
  have hspace : ' ' ≤ '0' := by decide
  exact hspace.trans hdigit.1

theorem controlFree_shownChar (c : Char) : ControlFree (shownChar c) := by
  have hescape : ∀ t, ControlFree t → ControlFree ('\\' :: t) := by
    intro t ht
    exact List.forall_mem_cons.2 ⟨by decide, ht⟩
  unfold shownChar escapeControl?
  split_ifs with htab hreturn hfeed hcontrol
  · exact hescape _ (List.forall_mem_singleton.2 (by decide))
  · exact hescape _ (List.forall_mem_singleton.2 (by decide))
  · exact hescape _ (List.forall_mem_singleton.2 (by decide))
  · exact hescape _ (controlFree_decimal c.toNat)
  · intro d hd
    rw [Option.getD_none, List.mem_singleton] at hd
    rw [hd]
    exact not_lt.1 hcontrol

theorem shownChar_ne_nil (c : Char) : shownChar c ≠ [] := by
  unfold shownChar escapeControl?
  split_ifs <;> simp

theorem controlFree_shownText (t : Text) : ControlFree (shownText t) := by
  intro c hc
  obtain ⟨d, -, hd⟩ := List.mem_flatMap.1 hc
  exact controlFree_shownChar d c hd

theorem shownText_cons (c : Char) (t : Text) : shownText (c :: t) = shownChar c ++ shownText t :=
  List.flatMap_cons

namespace Text

theorem trimEndWhere_append_cons {drop : Char → Bool} (t : Text) {c : Char}
    (hc : drop c = false) (u : Text) :
    trimEndWhere drop (t ++ c :: u) = t ++ c :: trimEndWhere drop u := by
  -- Read from the end, trimming stops at `c` if it gets there.
  have hkept : ((c :: t.reverse).dropWhile drop) = c :: t.reverse :=
    List.dropWhile_cons_of_neg (by simp [hc])
  have hreverse : (t ++ c :: u).reverse = u.reverse ++ c :: t.reverse := by simp
  rw [trimEndWhere, trimEndWhere, hreverse, List.dropWhile_append]
  split_ifs with hempty
  · rw [hkept, List.isEmpty_iff.1 hempty]
    simp
  · simp

theorem getElem?_trimEndWhere {drop : Char → Bool} (t : Text) {c : Char} (hc : drop c = false)
    (i : Nat) : (trimEndWhere drop t)[i]? = some c ↔ t[i]? = some c := by
  obtain ⟨tail, htail, ht⟩ : ∃ tail, (∀ e ∈ tail, drop e = true) ∧ t = trimEndWhere drop t ++ tail :=
    ⟨t.rtakeWhile drop, fun _ he => List.mem_rtakeWhile_imp he,
      List.rdropWhile_append_rtakeWhile.symm⟩
  constructor
  · intro h
    have hlt := (List.getElem?_eq_some_iff.1 h).1
    rw [ht, List.getElem?_append_left hlt]
    exact h
  · intro h
    -- The character stands in the part that is left, because `tail` has no such character.
    rw [ht] at h
    by_cases hlt : i < (trimEndWhere drop t).length
    · rwa [List.getElem?_append_left hlt] at h
    · rw [List.getElem?_append_right (not_lt.1 hlt)] at h
      have hdrop := htail c (List.mem_of_getElem? h)
      rw [hc] at hdrop
      cases hdrop

theorem lines_of_no_feed {t : Text} (h : '\n' ∉ t) : lines t = if t = [] then [] else [t] := by
  rw [lines, split_eq_singleton h]
  cases t <;> rfl

theorem lines_append {t u : Text} (hfeed : '\n' ∉ t) (hreturn : '\r' ∉ t) (hu : '\n' ∉ u)
    (hne : u ≠ []) : lines (t ++ '\n' :: u) = [t, u] := by
  obtain ⟨c, u, rfl⟩ := List.exists_cons_of_ne_nil hne
  have hsplit : split '\n' (t ++ '\n' :: c :: u) = [t, c :: u] := by
    rw [split_append_sep, split_eq_singleton hfeed, split_eq_singleton hu]
    rfl
  rw [lines, hsplit]
  simp only [List.dropLast, List.map_cons, List.map_nil, List.getLast?_cons_cons,
    List.getLast?_singleton]
  split
  · next rest hreverse => exact absurd (List.mem_reverse.1 (hreverse ▸ List.mem_cons_self)) hreturn
  · rfl

end Text

namespace Segment

def marks (s : Segment) : Text :=
  List.replicate s.text.length (if s.kind.isMarked then '^' else ' ')

/-- Merging keeps whatever is put together from the kinds and the characters of the segments. -/
theorem flatMap_merge {α : Type} {f : Segment → List α}
    (hf : ∀ kind t u, f ⟨kind, t ++ u⟩ = f ⟨kind, t⟩ ++ f ⟨kind, u⟩) (list : List Segment) :
    (merge list).flatMap f = list.flatMap f := by
  induction list with
  | nil => rfl
  | cons s list ih =>
    rw [merge, List.flatMap_cons, ← ih]
    cases merge list with
    | nil => rfl
    | cons next others =>
      simp only
      split_ifs with hkind
      · rw [List.flatMap_cons, List.flatMap_cons, hf, List.append_assoc]
        obtain ⟨kind, t⟩ := next
        obtain rfl : s.kind = kind := hkind
        rfl
      · rfl

end Segment

namespace Diagnostic

variable (d : Diagnostic)

/-- In front of the last position a span covers what its length says. -/
theorem covers_eq_true_iff {i : Nat} (hi : i < maxPosition) :
    d.covers i = true ↔ d.start ≤ i ∧ i < d.start + d.len := by
  rw [covers, Bool.and_eq_true, decide_eq_true_eq, decide_eq_true_eq, stop, lt_min_iff]
  exact and_congr_right fun _ => and_iff_left hi

theorem text_glyph (i : Nat) (c : Char) : (d.glyph i c).text = shownChar c := by
  unfold glyph shownChar
  cases escapeControl? c <;> cases d.covers i <;> rfl

theorem isMarked_glyph (i : Nat) (c : Char) : (d.glyph i c).kind.isMarked = d.covers i := by
  unfold glyph
  cases escapeControl? c <;> cases d.covers i <;> rfl

theorem glyphsFrom_append (i : Nat) (t u : Text) :
    d.glyphsFrom i (t ++ u) = d.glyphsFrom i t ++ d.glyphsFrom (i + t.length) u := by
  induction t generalizing i with
  | nil => rfl
  | cons c t ih =>
    have hnext : i + 1 + t.length = i + (t.length + 1) := by omega
    rw [List.cons_append, glyphsFrom, glyphsFrom, ih, List.cons_append, List.length_cons, hnext]

theorem flatMap_text_glyphsFrom (i : Nat) (t : Text) :
    (d.glyphsFrom i t).flatMap Segment.text = shownText t := by
  induction t generalizing i with
  | nil => rfl
  | cons c t ih => rw [glyphsFrom, List.flatMap_cons, ih, text_glyph, shownText_cons]

theorem flatMap_marks_glyphsFrom {i : Nat} {t : Text}
    (h : ∀ j, j < i + t.length → d.covers j = false) :
    (d.glyphsFrom i t).flatMap Segment.marks = List.replicate (shownText t).length ' ' := by
  induction t generalizing i with
  | nil => rfl
  | cons c t ih =>
    rw [List.length_cons] at h
    have hfirst : (d.glyph i c).marks = List.replicate (shownChar c).length ' ' := by
      rw [Segment.marks, text_glyph, isMarked_glyph, h i (by omega)]
      rfl
    have hrest := ih (i := i + 1) fun j hj => h j (by omega)
    rw [glyphsFrom, List.flatMap_cons, hrest, hfirst, shownText_cons, List.length_append,
      List.replicate_append_replicate]

def gap : Text :=
  match d.source.getLast? with
  | some ' ' | some '\t' => []
  | _ => [' ']

theorem controlFree_gap : ControlFree d.gap := by
  unfold gap
  split <;> simp [ControlFree]

theorem fillerSegments_of_pos (h : 0 < d.filler) :
    d.fillerSegments.flatMap Segment.text = d.gap ++ List.replicate d.filler '?' ∧
    d.fillerSegments.flatMap Segment.marks =
      List.replicate d.gap.length ' ' ++ List.replicate d.filler '^' := by
  have hmarks : Segment.marks ⟨.filler, List.replicate d.filler '?'⟩ =
      List.replicate d.filler '^' := by
    rw [Segment.marks, List.length_replicate]
    rfl
  unfold fillerSegments gap
  rw [if_neg (by omega)]
  generalize d.source.getLast? = last
  split
  · simp [hmarks]
  · simp [hmarks]
  · simp [Segment.marks, SegmentKind.isMarked]

theorem fillerSegments_of_zero (h : d.filler = 0) : d.fillerSegments = [] :=
  if_pos h

theorem shownLine_eq :
    d.shownLine = shownText d.source ++ d.fillerSegments.flatMap Segment.text := by
  rw [shownLine, segments, Segment.flatMap_merge (fun _ _ _ => rfl), List.flatMap_append,
    flatMap_text_glyphsFrom]

theorem caretLine_eq : d.caretLine = (d.glyphsFrom 0 d.source).flatMap Segment.marks ++
    d.fillerSegments.flatMap Segment.marks := by
  have hmarks : ∀ kind t u, Segment.marks ⟨kind, t ++ u⟩ =
      Segment.marks ⟨kind, t⟩ ++ Segment.marks ⟨kind, u⟩ := by
    intro kind t u
    simp only [Segment.marks, List.length_append, List.replicate_append_replicate]
  rw [← List.flatMap_append, ← Segment.flatMap_merge hmarks]
  rfl

theorem controlFree_fillerSegments : ControlFree (d.fillerSegments.flatMap Segment.text) := by
  rcases Nat.eq_zero_or_pos d.filler with h | h
  · rw [d.fillerSegments_of_zero h]
    simp [ControlFree]
  · rw [(d.fillerSegments_of_pos h).1]
    exact d.controlFree_gap.append (controlFree_replicate (by decide) _)

theorem controlFree_shownLine : ControlFree d.shownLine := by
  rw [shownLine_eq]
  exact (controlFree_shownText _).append d.controlFree_fillerSegments

theorem controlFree_caretLine : ControlFree d.caretLine := by
  intro c hc
  obtain ⟨s, -, hs⟩ := List.mem_flatMap.1 hc
  rw [List.eq_of_mem_replicate hs]
  split <;> decide

def carets : Text :=
  Text.trimEndWhere (· == ' ') d.caretLine

theorem controlFree_carets : ControlFree d.carets :=
  fun c hc => d.controlFree_caretLine c ((List.rdropWhile_prefix _ _).subset hc)

theorem plain_eq :
    d.plain = if d.carets = [] then d.shownLine else d.shownLine ++ '\n' :: d.carets := by
  rw [plain, ← carets]
  cases d.carets <;> rfl

theorem lines_plain : Text.lines d.plain =
    if d.carets = [] then (if d.shownLine = [] then [] else [d.shownLine])
    else [d.shownLine, d.carets] := by
  have hshown := d.controlFree_shownLine
  have hcarets := d.controlFree_carets
  rw [plain_eq]
  split_ifs with hempty hline
  · rw [Text.lines_of_no_feed (hshown.not_mem (by decide)), if_pos hline]
  · rw [Text.lines_of_no_feed (hshown.not_mem (by decide)), if_neg hline]
  · exact Text.lines_append (hshown.not_mem (by decide)) (hshown.not_mem (by decide))
      (hcarets.not_mem (by decide)) hempty

end Diagnostic

end Reroute
