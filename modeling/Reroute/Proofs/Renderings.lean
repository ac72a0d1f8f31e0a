import Reroute.Diagnostic.Ansi
import Reroute.Diagnostic.Terminal
import Reroute.Proofs.ShownText

set_option autoImplicit false

namespace Reroute

theorem StyleChange.eq_escape_of_mem {change : StyleChange} {c : Char} (hc : c ∈ change.sequence)
    (hcontrol : c < ' ') : c = '\x1b' := by
  have hcode : ControlFree change.sequence.tail := by
    cases change <;> simp only [ControlFree, StyleChange.sequence, List.tail_cons,
      List.forall_mem_cons, List.not_mem_nil, false_implies, implies_true, and_true] <;> decide
  have hsequence : change.sequence = '\x1b' :: change.sequence.tail := by cases change <;> rfl
  rw [hsequence, List.mem_cons] at hc
  rcases hc with rfl | hc
  · rfl
  · exact absurd hc (hcode.not_mem hcontrol)

namespace Terminal

variable (style : Style) (t : Text)

theorem print_boldOn : print style (StyleChange.sequence .boldOn ++ t) =
    print { style with bold := true } t := rfl

theorem print_redOn : print style (StyleChange.sequence .redOn ++ t) =
    print { style with red := true } t := rfl

theorem print_redOff : print style (StyleChange.sequence .redOff ++ t) =
    print { style with red := false } t := rfl

theorem print_allOff : print style (StyleChange.sequence .allOff ++ t) = print noStyle t := rfl

theorem print_cons {c : Char} (hc : ' ' ≤ c) :
    print style (c :: t) = (⟨c, style⟩ :: (print style t).1, (print style t).2) := by
  have hescape : c ≠ '\x1b' := by
    rintro rfl
    exact absurd hc (by decide)
  rw [print] <;> exact fun _ h _ => hescape h

theorem print_append {u : Text} (hu : ControlFree u) :
    print style (u ++ t) =
      (u.map (Cell.mk · style) ++ (print style t).1, (print style t).2) := by
  induction u with
  | nil => rfl
  | cons c u ih =>
    obtain ⟨hc, hrest⟩ := List.forall_mem_cons.1 hu
    rw [List.cons_append, print_cons _ _ hc, ih hrest]
    rfl

end Terminal

def SegmentKind.style : SegmentKind → Style
  | .text => ⟨true, false⟩
  | .marked => ⟨true, true⟩
  | .markedControl | .filler => ⟨false, true⟩
  | .control | .separator => Terminal.noStyle

theorem SegmentKind.red_style (kind : SegmentKind) : kind.style.red = kind.isMarked := by
  cases kind <;> rfl

namespace Segment

def cells (s : Segment) : List Cell :=
  s.text.map (Cell.mk · s.kind.style)

/-- A segment turns on what it needs and leaves nothing on. -/
theorem print_styled {s : Segment} (h : ControlFree s.text) (t : Text) :
    Terminal.print Terminal.noStyle (s.styled ++ t) =
      (s.cells ++ (Terminal.print Terminal.noStyle t).1,
        (Terminal.print Terminal.noStyle t).2) := by
  obtain ⟨kind, text⟩ := s
  have hprint : ∀ style rest, Terminal.print style (text ++ rest) =
      (text.map (Cell.mk · style) ++ (Terminal.print style rest).1,
        (Terminal.print style rest).2) :=
    fun style rest => Terminal.print_append style rest h
  -- The sequences in front of the text and behind it, one kind at a time.
  cases kind <;>
    simp only [styled, bold, red, cells, SegmentKind.style, List.append_assoc,
      Terminal.print_boldOn, Terminal.print_redOn, Terminal.print_redOff, Terminal.print_allOff,
      hprint] <;> rfl

theorem print_flatMap_styled {list : List Segment} (h : ∀ s ∈ list, ControlFree s.text) :
    Terminal.print Terminal.noStyle (list.flatMap styled) =
      (list.flatMap cells, Terminal.noStyle) := by
  induction list with
  | nil => rfl
  | cons s list ih =>
    obtain ⟨hs, hlist⟩ := List.forall_mem_cons.1 h
    rw [List.flatMap_cons, print_styled hs, ih hlist, List.flatMap_cons]

theorem map_char_cells (s : Segment) : s.cells.map Cell.char = s.text := by
  simp [cells, Function.comp_def]

theorem marks_eq_map_cells (s : Segment) :
    s.marks = s.cells.map fun cell => if cell.style.red then '^' else ' ' := by
  simp [marks, cells, Function.comp_def, SegmentKind.red_style, List.map_const']

theorem mem_styled {s : Segment} {c : Char} (hc : c ∈ s.styled) :
    c ∈ s.text ∨ ∃ change, c ∈ StyleChange.sequence change := by
  obtain ⟨kind, text⟩ := s
  have hbold : ∀ t : Text, c ∈ bold t → c ∈ t ∨ ∃ change, c ∈ StyleChange.sequence change := by
    intro t ht
    rw [bold, List.mem_append, List.mem_append] at ht
    rcases ht with (hon | ht) | hoff
    · exact .inr ⟨.boldOn, hon⟩
    · exact .inl ht
    · exact .inr ⟨.allOff, hoff⟩
  have hred : ∀ t : Text, c ∈ red t → c ∈ t ∨ ∃ change, c ∈ StyleChange.sequence change := by
    intro t ht
    rw [red, List.mem_append, List.mem_append] at ht
    rcases ht with (hon | ht) | hoff
    · exact .inr ⟨.redOn, hon⟩
    · exact .inl ht
    · exact .inr ⟨.redOff, hoff⟩
  cases kind with
  | text => exact hbold text hc
  | control => exact .inl hc
  | separator => exact .inl hc
  | marked =>
    rcases hbold (red text) hc with hc | hc
    · exact hred text hc
    · exact .inr hc
  | markedControl => exact hred text hc
  | filler => exact hred text hc

end Segment

namespace Diagnostic

theorem controlFree_segment {d : Diagnostic} {s : Segment} (hs : s ∈ d.segments) :
    ControlFree s.text := by
  intro c hc
  exact d.controlFree_shownLine c (List.mem_flatMap.2 ⟨s, hs, hc⟩)

def cells (d : Diagnostic) : List Cell :=
  d.segments.flatMap Segment.cells

theorem print_ansi (d : Diagnostic) :
    Terminal.print Terminal.noStyle d.ansi = (d.cells, Terminal.noStyle) :=
  Segment.print_flatMap_styled fun _ hs => controlFree_segment hs

theorem map_char_cells (d : Diagnostic) : d.cells.map Cell.char = d.shownLine := by
  rw [cells, List.map_flatMap]
  exact List.flatMap_congr fun s _ => s.map_char_cells

theorem caretLine_eq_map_cells (d : Diagnostic) :
    d.caretLine = d.cells.map fun cell => if cell.style.red then '^' else ' ' := by
  have hmarks : d.caretLine = d.segments.flatMap Segment.marks := rfl
  rw [hmarks, cells, List.map_flatMap]
  exact List.flatMap_congr fun s _ => s.marks_eq_map_cells

theorem getElem?_carets_iff (d : Diagnostic) (i : Nat) :
    d.carets[i]? = some '^' ↔ ∃ cell : Cell, d.cells[i]? = some cell ∧ cell.style.red = true := by
  rw [carets, Text.getElem?_trimEndWhere _ (by decide), caretLine_eq_map_cells, List.getElem?_map,
    Option.map_eq_some_iff]
  refine exists_congr fun cell => and_congr_right fun _ => ?_
  cases cell.style.red <;> decide

theorem eq_feed_of_mem_plain {d : Diagnostic} {c : Char} (hc : c ∈ d.plain)
    (hcontrol : c < ' ') : c = '\n' := by
  have hshown := d.controlFree_shownLine.not_mem hcontrol
  have hcarets := d.controlFree_carets.not_mem hcontrol
  rw [plain_eq] at hc
  split_ifs at hc
  · exact absurd hc hshown
  · rw [List.mem_append, List.mem_cons] at hc
    rcases hc with hc | rfl | hc
    · exact absurd hc hshown
    · rfl
    · exact absurd hc hcarets

theorem count_feed_plain_le (d : Diagnostic) : d.plain.count '\n' ≤ 1 := by
  have hshown := List.count_eq_zero_of_not_mem (d.controlFree_shownLine.not_mem (c := '\n')
    (by decide))
  have hcarets := List.count_eq_zero_of_not_mem (d.controlFree_carets.not_mem (c := '\n')
    (by decide))
  rw [plain_eq]
  split_ifs
  · omega
  · rw [List.count_append, List.count_cons_self]
    omega

/-- A terminal that reads the coloured rendering prints the first line of the plain one, in red
where the second line has carets, and no style stays on. The only control characters of the
renderings are the escapes of the control sequences and the line feed between the two lines. -/
theorem renderings_agree (d : Diagnostic) : ∃ cells,
    Terminal.print Terminal.noStyle d.ansi = (cells, Terminal.noStyle) ∧
    cells.map Cell.char = (Text.lines d.plain).getD 0 [] ∧
    (∀ i : Nat, (∃ cell : Cell, cells[i]? = some cell ∧ cell.style.red = true) ↔
      ((Text.lines d.plain).getD 1 [])[i]? = some '^') ∧
    (∀ cell ∈ cells, ' ' ≤ cell.char) ∧ (∀ c ∈ d.ansi, c < ' ' → c = '\x1b') ∧
    (∀ c ∈ d.plain, c < ' ' → c = '\n') ∧ d.plain.count '\n' ≤ 1 := by
  have hshown := d.controlFree_shownLine
  have hlines : (Text.lines d.plain).getD 0 [] = d.shownLine ∧
      (Text.lines d.plain).getD 1 [] = d.carets := by
    rw [lines_plain]
    split_ifs with hcarets hline <;> simp [hcarets]
    exact hline
  rw [hlines.1, hlines.2]
  refine ⟨d.cells, d.print_ansi, d.map_char_cells, fun i => (d.getElem?_carets_iff i).symm,
    ?_, ?_, ?_, ?_⟩
  · intro cell hcell
    exact hshown _ (d.map_char_cells ▸ List.mem_map_of_mem hcell)
  · -- The text of a segment has no control character, so this one belongs to a sequence.
    intro c hc hcontrol
    obtain ⟨s, hs, hmem⟩ := List.mem_flatMap.1 hc
    rcases Segment.mem_styled hmem with htext | ⟨change, hchange⟩
    · exact absurd htext ((controlFree_segment hs).not_mem hcontrol)
    · exact StyleChange.eq_escape_of_mem hchange hcontrol
  · exact fun c hc hcontrol => eq_feed_of_mem_plain hc hcontrol
  · exact d.count_feed_plain_le

end Diagnostic

end Reroute
