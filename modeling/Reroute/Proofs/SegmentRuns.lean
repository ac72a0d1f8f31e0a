import Reroute.Proofs.ShownText

set_option autoImplicit false

namespace Reroute

/-- How a character is written where it is shown: a control character as a backslash with a letter,
or else with its number, and any other as itself. -/
inductive WrittenAs : Char → Text → Prop where
  | tab : WrittenAs '\t' ['\\', 't']
  | carriageReturn : WrittenAs '\r' ['\\', 'r']
  | lineFeed : WrittenAs '\n' ['\\', 'n']
  | numbered {c : Char} (h : c < ' ') (htab : c ≠ '\t') (hreturn : c ≠ '\r') (hfeed : c ≠ '\n') :
      WrittenAs c ('\\' :: Nat.toDigits 10 c.toNat)
  | plain {c : Char} (h : ' ' ≤ c) : WrittenAs c [c]

theorem escapeControl?_eq_none_iff {c : Char} : escapeControl? c = none ↔ ' ' ≤ c := by
  unfold escapeControl?
  split_ifs with htab hreturn hfeed hcontrol
  · exact iff_of_false (by simp) (by rw [htab]; decide)
  · exact iff_of_false (by simp) (by rw [hreturn]; decide)
  · exact iff_of_false (by simp) (by rw [hfeed]; decide)
  · exact iff_of_false (by simp) (not_le.2 hcontrol)
  · exact iff_of_true rfl (not_lt.1 hcontrol)

theorem writtenAs_shownChar (c : Char) : WrittenAs c (shownChar c) := by
  unfold shownChar escapeControl?
  split_ifs with htab hreturn hfeed hcontrol
  · exact htab ▸ .tab
  · exact hreturn ▸ .carriageReturn
  · exact hfeed ▸ .lineFeed
  · exact .numbered hcontrol htab hreturn hfeed
  · exact .plain (not_lt.1 hcontrol)

theorem WrittenAs.eq_shownChar {c : Char} {t : Text} (h : WrittenAs c t) : t = shownChar c := by
  cases h with
  | tab => rfl
  | carriageReturn => rfl
  | lineFeed => rfl
  | numbered h htab hreturn hfeed =>
    rw [shownChar, escapeControl?, if_neg htab, if_neg hreturn, if_neg hfeed, if_pos h]
    rfl
  | plain h =>
    rw [shownChar, escapeControl?_eq_none_iff.2 h]
    rfl

theorem forall₂_writtenAs_iff {t : Text} {pieces : List Text} :
    List.Forall₂ WrittenAs t pieces ↔ pieces = t.map shownChar := by
  constructor
  · intro h
    induction h with
    | nil => rfl
    | cons hc _ ih => rw [List.map_cons, ih, hc.eq_shownChar]
  · rintro rfl
    exact List.forall₂_map_right_iff.2 (List.forall₂_same.2 fun c _ => writtenAs_shownChar c)

namespace Segment

variable {list : List Segment} {front t : Text} {kind : SegmentKind}

theorem merge_cons_cases (s : Segment) (list : List Segment) :
    (merge (s :: list) = s :: merge list ∧ ∀ next ∈ (merge list).head?, s.kind ≠ next.kind) ∨
    ∃ t others, merge list = ⟨s.kind, t⟩ :: others ∧
      merge (s :: list) = ⟨s.kind, s.text ++ t⟩ :: others := by
  rw [merge]
  cases hmerge : merge list with
  | nil => exact .inl ⟨rfl, by simp⟩
  | cons next others =>
    obtain ⟨kind, t⟩ := next
    by_cases hkind : s.kind = kind
    · subst hkind
      exact .inr ⟨t, others, rfl, if_pos rfl⟩
    · exact .inl ⟨if_neg hkind, by simpa using hkind⟩

theorem text_ne_nil_of_mem_merge (h : ∀ s ∈ list, s.text ≠ []) : ∀ s ∈ merge list, s.text ≠ [] := by
  induction list with
  | nil => exact h
  | cons s list ih =>
    obtain ⟨hs, hlist⟩ := List.forall_mem_cons.1 h
    have hrest := ih hlist
    rcases merge_cons_cases s list with ⟨hmerge, -⟩ | ⟨t, others, hothers, hmerge⟩
    · rw [hmerge]
      exact List.forall_mem_cons.2 ⟨hs, hrest⟩
    · rw [hothers] at hrest
      rw [hmerge]
      refine List.forall_mem_cons.2 ⟨?_, (List.forall_mem_cons.1 hrest).2⟩
      exact List.append_ne_nil_of_left_ne_nil hs t

theorem isChain_merge (list : List Segment) :
    (merge list).IsChain fun s t => s.kind ≠ t.kind := by
  induction list with
  | nil => exact .nil
  | cons s list ih =>
    rcases merge_cons_cases s list with ⟨hmerge, hhead⟩ | ⟨t, others, hothers, hmerge⟩
    · rw [hmerge]
      exact List.isChain_cons.2 ⟨hhead, ih⟩
    · rw [hothers, List.isChain_cons] at ih
      rw [hmerge]
      exact List.isChain_cons.2 ih

/-- A segment of this kind holds `t`, and all that is shown before `t` is `front`. -/
inductive Holds : List Segment → Text → Text → SegmentKind → Prop where
  | here (front t right : Text) (kind : SegmentKind) (after : List Segment) :
      Holds (⟨kind, front ++ (t ++ right)⟩ :: after) front t kind
  | later (s : Segment) {list : List Segment} {front t : Text} {kind : SegmentKind}
      (h : Holds list front t kind) : Holds (s :: list) (s.text ++ front) t kind

theorem holds_self (s : Segment) (after : List Segment) :
    Holds (s :: after) [] s.text s.kind := by
  have h := Holds.here [] s.text [] s.kind after
  rwa [List.append_nil, List.nil_append] at h

theorem Holds.append_left (h : Holds list front t kind) (before : List Segment) :
    Holds (before ++ list) (before.flatMap Segment.text ++ front) t kind := by
  induction before with
  | nil => exact h
  | cons s before ih =>
    rw [List.flatMap_cons, List.append_assoc]
    exact .later s ih

theorem Holds.grow {first : SegmentKind} {u : Text}
    (h : Holds (⟨first, u⟩ :: list) front t kind) (v : Text) :
    Holds (⟨first, v ++ u⟩ :: list) (v ++ front) t kind := by
  cases h with
  | here _ _ right _ _ =>
    rw [← List.append_assoc v front]
    exact .here (v ++ front) t right kind list
  | later _ h =>
    rw [← List.append_assoc]
    exact .later ⟨first, v ++ u⟩ h

theorem Holds.merge (h : Holds list front t kind) : Holds (merge list) front t kind := by
  induction h with
  | here front t right kind after =>
    rcases merge_cons_cases ⟨kind, front ++ (t ++ right)⟩ after with
      ⟨hmerge, -⟩ | ⟨u, others, -, hmerge⟩
    · rw [hmerge]
      exact .here front t right kind _
    · rw [hmerge, List.append_assoc, List.append_assoc]
      exact .here front t (right ++ u) kind others
  | later s _ ih =>
    rcases merge_cons_cases s _ with ⟨hmerge, -⟩ | ⟨u, others, hothers, hmerge⟩
    · rw [hmerge]
      exact .later s ih
    · rw [hothers] at ih
      rw [hmerge]
      exact ih.grow s.text

def kinds (list : List Segment) : List SegmentKind :=
  list.flatMap fun s => List.replicate s.text.length s.kind

theorem Holds.kinds_eq (h : Holds list front t kind) (ht : t ≠ []) :
    (kinds list)[front.length]? = some kind := by
  have hpos := List.length_pos_of_ne_nil ht
  induction h with
  | here front t right kind after =>
    have hlt : front.length < (List.replicate (front ++ (t ++ right)).length kind).length := by
      rw [List.length_replicate, List.length_append, List.length_append]
      omega
    rw [kinds, List.flatMap_cons, List.getElem?_append_left hlt, List.getElem?_replicate_of_lt]
    rwa [List.length_replicate] at hlt
  | later s _ ih =>
    rw [kinds, List.flatMap_cons, List.length_append, List.getElem?_append_right (by simp),
      List.length_replicate, Nat.add_sub_cancel_left]
    exact ih ht hpos

theorem Holds.unique {kind' : SegmentKind} (h : Holds list front t kind)
    (h' : Holds list front t kind') (ht : t ≠ []) : kind = kind' :=
  Option.some.inj ((h.kinds_eq ht).symm.trans (h'.kinds_eq ht))

end Segment

namespace Diagnostic

variable {d : Diagnostic}

theorem kind_glyph_cases (d : Diagnostic) (i : Nat) (c : Char) :
    ((d.glyph i c).kind = .marked ∨ (d.glyph i c).kind = .markedControl ↔ d.covers i = true) ∧
    ((d.glyph i c).kind = .control ∨ (d.glyph i c).kind = .markedControl ↔ c < ' ') ∧
    (d.glyph i c).kind ≠ .separator ∧ (d.glyph i c).kind ≠ .filler := by
  rw [← not_le, ← escapeControl?_eq_none_iff]
  unfold glyph
  cases escapeControl? c <;> cases d.covers i <;> simp

theorem holds_glyph {i : Nat} {c : Char} (h : d.source[i]? = some c) :
    Segment.Holds d.segments (shownText (d.source.take i)) (shownChar c) (d.glyph i c).kind := by
  obtain ⟨hi, rfl⟩ := List.getElem?_eq_some_iff.1 h
  have hsource : d.source = d.source.take i ++ d.source[i] :: d.source.drop (i + 1) := by
    rw [List.getElem_cons_drop, List.take_append_drop]
  have hglyphs : d.glyphsFrom 0 d.source = d.glyphsFrom 0 (d.source.take i) ++
      d.glyph i d.source[i] :: d.glyphsFrom (i + 1) (d.source.drop (i + 1)) := by
    conv_lhs => rw [hsource]
    rw [glyphsFrom_append, glyphsFrom, List.length_take_of_le hi.le, Nat.zero_add]
  have hself := Segment.holds_self (d.glyph i d.source[i])
    (d.glyphsFrom (i + 1) (d.source.drop (i + 1)) ++ d.fillerSegments)
  have hbehind := (hself.append_left (d.glyphsFrom 0 (d.source.take i))).merge
  rw [text_glyph, flatMap_text_glyphsFrom, List.append_nil, ← List.cons_append,
    ← List.append_assoc, ← hglyphs] at hbehind
  exact hbehind

theorem text_ne_nil_of_mem_glyphsFrom (d : Diagnostic) (i : Nat) (t : Text) :
    ∀ s ∈ d.glyphsFrom i t, s.text ≠ [] := by
  induction t generalizing i with
  | nil => exact List.forall_mem_nil _
  | cons c t ih =>
    refine List.forall_mem_cons.2 ⟨?_, ih (i + 1)⟩
    rw [text_glyph]
    exact shownChar_ne_nil c

theorem text_ne_nil_of_mem_fillerSegments (d : Diagnostic) :
    ∀ s ∈ d.fillerSegments, s.text ≠ [] := by
  unfold fillerSegments
  split_ifs with hzero
  · exact List.forall_mem_nil _
  · have hmarks : List.replicate d.filler '?' ≠ [] := mt (List.replicate_eq_nil_iff _).1 hzero
    split <;> simp [hmarks]

theorem text_ne_nil_of_mem_segments {s : Segment} (hs : s ∈ d.segments) : s.text ≠ [] := by
  refine Segment.text_ne_nil_of_mem_merge (fun s hs => ?_) s hs
  rcases List.mem_append.1 hs with hs | hs
  · exact d.text_ne_nil_of_mem_glyphsFrom 0 d.source s hs
  · exact d.text_ne_nil_of_mem_fillerSegments s hs

theorem gap_eq (d : Diagnostic) : d.gap =
    if d.source.getLast? = some ' ' ∨ d.source.getLast? = some '\t' then [] else [' '] := by
  unfold gap
  split
  · next hlast => rw [if_pos (.inl hlast)]
  · next hlast => rw [if_pos (.inr hlast)]
  · next hspace htab => rw [if_neg (not_or.2 ⟨hspace, htab⟩)]

theorem flatMap_text_segments (d : Diagnostic) : d.segments.flatMap Segment.text =
    shownText d.source ++ if d.filler = 0 then [] else
      (if d.source.getLast? = some ' ' ∨ d.source.getLast? = some '\t' then [] else [' ']) ++
        List.replicate d.filler '?' := by
  have hshown : d.segments.flatMap Segment.text = d.shownLine := rfl
  rw [hshown, shownLine_eq]
  rcases Nat.eq_zero_or_pos d.filler with hzero | hpos
  · rw [if_pos hzero, d.fillerSegments_of_zero hzero]
    rfl
  · rw [if_neg hpos.ne', (d.fillerSegments_of_pos hpos).1, gap_eq]

/-- The segments show the source, with its control characters escaped, and the filler marks behind
it. What is shown for a character stands in just one segment, marked if the span reaches the
character, however far the span is meant to go. The segments are the longest runs of their kind. -/
theorem segments_are_maximal_runs (h : d.source.length < maxPosition) :
    ∃ pieces : List Text, (∀ list, List.Forall₂ WrittenAs d.source list ↔ list = pieces) ∧
    (d.segments.flatMap Segment.text = pieces.flatten ++ if d.filler = 0 then [] else
      (if d.source.getLast? = some ' ' ∨ d.source.getLast? = some '\t' then [] else [' ']) ++
        List.replicate d.filler '?') ∧
    (∀ i c piece, d.source[i]? = some c → pieces[i]? = some piece → ∃ kind,
      (∀ k, Segment.Holds d.segments (pieces.take i).flatten piece k ↔ k = kind) ∧
      (kind = .marked ∨ kind = .markedControl ↔ d.start ≤ i ∧ i < d.start + d.len) ∧
      (kind = .control ∨ kind = .markedControl ↔ c < ' ') ∧
      kind ≠ .separator ∧ kind ≠ .filler) ∧
    (∀ s ∈ d.segments, s.text ≠ []) ∧ d.segments.IsChain fun s t => s.kind ≠ t.kind := by
  refine ⟨d.source.map shownChar, fun list => forall₂_writtenAs_iff, ?_, fun i c piece hc hpiece => ?_,
    ?_, ?_⟩
  · rw [← List.flatMap_def]
    exact d.flatMap_text_segments
  · rw [List.getElem?_map, hc, Option.map_some, Option.some.injEq] at hpiece
    subst hpiece
    rw [← List.map_take, ← List.flatMap_def]
    obtain ⟨hi, -⟩ := List.getElem?_eq_some_iff.1 hc
    obtain ⟨hmarked, hcontrol, hplain⟩ := d.kind_glyph_cases i c
    have hholds := holds_glyph hc
    rw [d.covers_eq_true_iff (hi.trans h)] at hmarked
    refine ⟨(d.glyph i c).kind, fun k => ⟨fun hk => ?_, ?_⟩, hmarked, hcontrol, hplain⟩
    · exact hk.unique hholds (shownChar_ne_nil c)
    · rintro rfl
      exact hholds
  · exact fun _ => text_ne_nil_of_mem_segments
  · exact Segment.isChain_merge _

theorem segments_are_maximal_runs_endless :
    let d : Diagnostic := ⟨"a\t\x11".toList, 1, UInt64.size - 1, 2⟩
    d.source.length < maxPosition ∧
    List.Forall₂ WrittenAs d.source ["a".toList, "\\t".toList, "\\17".toList] ∧
    d.segments.flatMap Segment.text = "a\\t\\17 ??".toList ∧
    Segment.Holds d.segments "a\\t".toList "\\17".toList .markedControl ∧
    (∀ s ∈ d.segments, s.text ≠ []) ∧ d.segments.IsChain fun s t => s.kind ≠ t.kind := by
  intro d
  have hlength : d.source.length < maxPosition := by decide
  obtain ⟨pieces, hpieces, htext, hkinds, hruns⟩ := segments_are_maximal_runs hlength
  have hwritten : List.Forall₂ WrittenAs d.source ["a".toList, "\\t".toList, "\\17".toList] :=
    .cons (.plain (by decide)) (.cons .tab
      (.cons (.numbered (by decide) (by decide) (by decide) (by decide)) .nil))
  obtain rfl := (hpieces _).1 hwritten
  obtain ⟨kind, hholds, hmarked, hcontrol, -⟩ := hkinds 2 '\x11' _ rfl rfl
  have hkind : SegmentKind.markedControl = kind := by
    rcases hcontrol.2 (by decide) with rfl | rfl
    · rcases hmarked.2 (by decide) with hkind | hkind <;> cases hkind
    · rfl
  exact ⟨hlength, hwritten, htext.trans (by decide), (hholds _).2 hkind, hruns⟩

end Diagnostic

end Reroute
