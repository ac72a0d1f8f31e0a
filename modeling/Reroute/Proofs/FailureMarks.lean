import Reroute.Proofs.RuleFailures
import Reroute.Proofs.ShownText

set_option autoImplicit false

namespace Reroute

namespace Diagnostic

variable {d : Diagnostic}

/-- Something is missing behind the text: only the filler marks have carets below them. -/
structure PointsBehind (t : Text) (d : Diagnostic) : Prop where
  filler : 0 < d.filler
  start : d.start = t.length
  lines : Text.lines d.plain = [shownText t ++ d.gap ++ List.replicate d.filler '?',
    List.replicate (shownText t ++ d.gap).length ' ' ++ List.replicate d.filler '^']

/-- A character of the text cannot be accepted: the first caret stands where it begins. Positions
are counted in 64 bits, so no text has a character beyond the last of them. -/
structure PointsAt (t : Text) (d : Diagnostic) : Prop where
  filler : d.filler = 0
  len : 1 ≤ d.len
  char : ∃ c, t[d.start]? = some c ∧ c ≠ ' '
  lines : d.start < maxPosition → ∃ more, Text.lines d.plain = [shownText t,
    List.replicate (shownText (t.take d.start)).length ' ' ++ '^' :: more]

theorem covers_of_lt {i : Nat} (h : i < d.start) : d.covers i = false := by
  simp only [covers, Bool.and_eq_false_iff, decide_eq_false_iff_not]
  omega

theorem covers_start (hlen : 1 ≤ d.len) (hstart : d.start < maxPosition) :
    d.covers d.start = true :=
  (d.covers_eq_true_iff hstart).2 ⟨le_rfl, by omega⟩

theorem lines_plain_of_caret {front more : Text}
    (h : d.caretLine = front ++ '^' :: more) :
    Text.lines d.plain = [d.shownLine, front ++ '^' :: Text.trimEndWhere (· == ' ') more] := by
  have hcarets : d.carets = front ++ '^' :: Text.trimEndWhere (· == ' ') more := by
    rw [carets, h]
    exact Text.trimEndWhere_append_cons front (by decide) more
  have hne : d.carets ≠ [] := by
    rw [hcarets]
    simp
  rw [lines_plain, if_neg hne, hcarets]

theorem pointsBehind (hfiller : 0 < d.filler) (hstart : d.start = d.source.length) :
    PointsBehind d.source d := by
  obtain ⟨htext, hmarks⟩ := d.fillerSegments_of_pos hfiller
  have hglyphs := d.flatMap_marks_glyphsFrom (i := 0) (t := d.source) fun j hj =>
    covers_of_lt (by omega)
  -- The last caret stands apart: trimming gets no further than that.
  obtain ⟨n, hn⟩ := Nat.exists_eq_succ_of_ne_zero (Nat.ne_of_gt hfiller)
  have hcarets : d.caretLine =
      List.replicate (shownText d.source ++ d.gap).length ' ' ++ List.replicate n '^' ++ ['^'] := by
    rw [caretLine_eq, hglyphs, hmarks, hn, List.replicate_succ', List.length_append,
      ← List.replicate_append_replicate]
    simp only [List.append_assoc]
  refine ⟨hfiller, hstart, ?_⟩
  rw [lines_plain_of_caret hcarets, shownLine_eq, htext, hn, List.replicate_succ' (a := '^')]
  simp [Text.trimEndWhere]

theorem pointsAt {p q : Text} (hsource : d.source = p ++ q) (hstart : d.start = p.length)
    (hne : q ≠ []) (hspace : Unspaced q) (hfiller : d.filler = 0) (hlen : 1 ≤ d.len) :
    PointsAt d.source d := by
  obtain ⟨c, q, rfl⟩ := List.exists_cons_of_ne_nil hne
  refine ⟨hfiller, hlen, ⟨c, ?_, hspace⟩, fun hposition => ?_⟩
  · rw [hsource, hstart]
    exact List.getElem?_append_right (Nat.le_refl _) |>.trans (by simp)
  · have hfront := d.flatMap_marks_glyphsFrom (i := 0) (t := p) fun j hj =>
      covers_of_lt (by omega)
    -- An escaped character has several carets, and there is one at least.
    have hshown := List.exists_cons_of_ne_nil (shownChar_ne_nil c)
    obtain ⟨e, shown, hchar⟩ := hshown
    have hmarks : (d.glyph p.length c).marks = '^' :: List.replicate shown.length '^' := by
      rw [Segment.marks, text_glyph, isMarked_glyph, ← hstart, covers_start hlen hposition, hchar]
      rfl
    have hcarets : ∃ more, d.caretLine =
        List.replicate (shownText p).length ' ' ++ '^' :: more := by
      rw [caretLine_eq, hsource, glyphsFrom_append, List.flatMap_append, hfront, Nat.zero_add,
        glyphsFrom, List.flatMap_cons, hmarks]
      simp only [List.append_assoc, List.cons_append]
      exact ⟨_, rfl⟩
    obtain ⟨more, hmore⟩ := hcarets
    have hline : d.shownLine = shownText d.source := by
      rw [shownLine_eq, fillerSegments_of_zero d hfiller]
      simp
    have htake : d.source.take d.start = p := by
      rw [hsource, hstart]
      exact List.take_left
    rw [lines_plain_of_caret hmore, hline, htake]
    exact ⟨_, rfl⟩

end Diagnostic

/-- The report of a text that is no rule shows that text. It points at a character that is no space,
or behind the text if something is missing there, and never at both. -/
theorem parse_failure_is_anchored {t : Text} {e : ParseError} (h : Rule.parse t = .error e) :
    e.diagnostic.source = t ∧
    Xor (e.diagnostic.PointsBehind t) (e.diagnostic.PointsAt t) := by
  obtain ⟨p, q, rfl, hstands⟩ := Rule.parse_standsAt h
  have hsource := hstands.source
  have hstart := hstands.start
  rw [List.nil_append] at hsource hstart
  refine ⟨hsource, ?_⟩
  rw [← hsource]
  rcases hstands.shape with ⟨rfl, hfiller⟩ | ⟨hne, hspace, hfiller, hlen⟩
  · rw [List.append_nil] at hsource
    refine .inl ⟨Diagnostic.pointsBehind hfiller (hsource ▸ hstart), fun hat => ?_⟩
    exact absurd hat.filler (Nat.ne_of_gt hfiller)
  · refine .inr ⟨Diagnostic.pointsAt hsource hstart hne hspace hfiller hlen, fun hbehind => ?_⟩
    exact absurd hfiller (Nat.ne_of_gt hbehind.filler)

theorem parse_failure_is_anchored_backslash :
    let d : Diagnostic := ⟨"p => \\".toList, 5, 2, 0⟩
    Rule.parse "p => \\".toList = .error ⟨.scan .spaceExpectedAfterEscape, d⟩ ∧
    d.PointsAt "p => \\".toList := by
  intro d
  have hparse : Rule.parse "p => \\".toList = .error ⟨.scan .spaceExpectedAfterEscape, d⟩ := by
    decide
  obtain ⟨-, ⟨hbehind, -⟩ | ⟨hat, -⟩⟩ := parse_failure_is_anchored hparse
  · exact absurd hbehind.filler (Nat.lt_irrefl 0)
  · exact ⟨hparse, hat⟩

end Reroute
