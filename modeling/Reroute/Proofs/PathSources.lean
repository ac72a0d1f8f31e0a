import Reroute.Proofs.CommandOutcomes

set_option autoImplicit false

namespace Reroute

namespace Text

def withoutReturn (line : Text) : Text :=
  match line.reverse with
  | '\r' :: rest => rest.reverse
  | _ => line

theorem withoutReturn_cases (line : Text) :
    withoutReturn line = line ∨ line = withoutReturn line ++ ['\r'] := by
  unfold withoutReturn
  split
  · next rest hreverse =>
    have hline := congrArg List.reverse hreverse
    rw [List.reverse_reverse, List.reverse_cons] at hline
    exact .inr hline
  · exact .inl rfl

/-- The last piece is a line if it holds anything, and stays as it is. -/
theorem exists_lines_eq (t : Text) : ∃ ended last, split '\n' t = ended ++ [last] ∧
    lines t = ended.map withoutReturn ++ if last = [] then [] else [last] := by
  obtain ⟨ended, last, hsplit⟩ := List.eq_nil_or_concat (split '\n' t) |>.resolve_left
    (split_ne_nil '\n' t)
  rw [List.concat_eq_append] at hsplit
  refine ⟨ended, last, hsplit, ?_⟩
  rw [lines, hsplit, List.dropLast_concat, List.getLast?_concat]
  cases last with
  | nil => exact (List.append_nil _).symm
  | cons c last => rfl

theorem trimWhere_append_singleton {drop : Char → Bool} (t : Text) {c : Char}
    (hc : drop c = true) : trimWhere drop (t ++ [c]) = trimWhere drop t := by
  rw [trimWhere, trimWhere, List.dropWhile_append]
  split_ifs with hblank
  · rw [List.isEmpty_iff.1 hblank]
    simp [hc]
  · exact trimEndWhere_append_singleton _ hc

end Text

namespace Command

theorem normalizePath_append_return (t : Text) :
    normalizePath (t ++ ['\r']) = normalizePath t := by
  have hreturn : Unicode.isWhiteSpace '\r' = true := by decide +kernel
  rw [normalizePath, Text.trimWhere_append_singleton t hreturn]
  rfl

theorem normalizePath_withoutReturn (line : Text) :
    normalizePath (Text.withoutReturn line) = normalizePath line := by
  rcases Text.withoutReturn_cases line with hsame | hreturn
  · rw [hsame]
  · conv_rhs => rw [hreturn]
    exact (normalizePath_append_return _).symm

theorem pathsIn_eq (t : Text) :
    pathsIn t = ((Text.split '\n' t).map normalizePath).filter fun p => !p.isEmpty := by
  obtain ⟨ended, last, hsplit, hlines⟩ := Text.exists_lines_eq t
  have hended : (ended.map Text.withoutReturn).map normalizePath = ended.map normalizePath := by
    rw [List.map_map]
    exact List.map_congr_left fun line _ => normalizePath_withoutReturn line
  rw [pathsIn, hlines, hsplit, List.map_append, List.map_append, hended, List.filter_append,
    List.filter_append]
  congr 1
  split_ifs with hlast
  · rw [hlast]
    rfl
  · rfl

/-- The pieces of a text between line feeds that are not blank, as they can be given as
arguments. -/
def argumentsIn (t : Text) : List Text :=
  (Text.split '\n' t).filter fun piece => !(normalizePath piece).isEmpty

theorem pathsIn_eq_map (t : Text) : pathsIn t = (argumentsIn t).map normalizePath := by
  rw [pathsIn_eq, List.filter_map]
  rfl

section Renaming

variable {w : World} {t : Text}

theorem renameWith_argumentsIn (h : w.input = .ok t) (hne : argumentsIn t ≠ [])
    (other : Except Text Text) (before : List Event) (rules : List SourcedRule) :
    renameWith w before rules [] =
      renameWith { w with input := other } before rules (argumentsIn t) := by
  simp only [renameWith, List.isEmpty_nil, if_true, List.isEmpty_eq_false_iff.2 hne,
    Bool.false_eq_true, if_false, h, pathsIn_eq_map]

theorem rename_argumentsIn (h : w.input = .ok t) (hne : argumentsIn t ≠ [])
    (other : Except Text Text) (colored : Bool) (texts : List Text) :
    rename w colored texts [] =
      rename { w with input := other } colored texts (argumentsIn t) := by
  simp only [rename, renameWith_argumentsIn h hne other]

/-- The paths on the input are its pieces between line feeds without the blank ones, and renaming
them has the outcome of renaming the same pieces given as arguments, whatever is on the input then:
with rules that can be used, a line for each path that a rule replaces. -/
theorem input_agrees_with_arguments (h : w.input = .ok t) :
    pathsIn t = ((Text.split '\n' t).map normalizePath).filter (fun p => !p.isEmpty) ∧
    (argumentsIn t ≠ [] → ∀ (other : Except Text Text) (colored : Bool) (texts : List Text),
      rename w colored texts [] =
        rename { w with input := other } colored texts (argumentsIn t)) ∧
    ∀ (colored : Bool) (texts ruleTexts : List Text) (renamers : List Renamer),
      RuleTexts w texts ruleTexts → List.Forall₂ Ready ruleTexts renamers →
        (rename w colored texts []).code = 0 ∧
          Prints renamers (pathsIn t) (rename w colored texts []).output := by
  refine ⟨pathsIn_eq t, fun hne other colored texts => ?_, ?_⟩
  · exact rename_argumentsIn h hne other colored texts
  · intro colored texts ruleTexts renamers htexts hready
    exact prints_of_ready htexts hready (.input h) colored

def mixedLines : World where
  host := ⟨fun _ => none, fun _ => none, none⟩
  directory := []
  input := .ok "\x22p/x\x22\r\n\r\n  z\n\x22\x22\r\nz\r\np \r".toList
  writeProblem := none
  isTerminal := false

theorem input_agrees_with_arguments_mixedLines :
    let pieces := ["\x22p/x\x22\r".toList, "  z".toList, "z\r".toList, "p \r".toList]
    rename mixedLines false ["p => q".toList] [] =
      rename { mixedLines with input := .error Entry.binaryReason } false ["p => q".toList]
        pieces ∧
    (rename mixedLines false ["p => q".toList] []).output = "p/x => q/x\np => q\n".toList ∧
    (rename mixedLines false ["p => q".toList] []).code = 0 := by
  intro pieces
  have hpieces : argumentsIn "\x22p/x\x22\r\n\r\n  z\n\x22\x22\r\nz\r\np \r".toList = pieces := by
    decide +kernel
  obtain ⟨-, hsame, hprints⟩ := input_agrees_with_arguments (w := mixedLines) rfl
  rw [hpieces] at hsame
  have hready : List.Forall₂ Ready ["p => q".toList]
      [.leading ⟨"p".toList, "q".toList⟩] := by
    refine .cons ⟨.replace "p".toList "q".toList, ?_, rfl⟩ .nil
    decide +kernel
  exact ⟨hsame (List.cons_ne_nil _ _) _ _ _, by decide +kernel,
    (hprints _ _ _ _ (.given (List.cons_ne_nil _ _)) hready).1⟩

end Renaming

end Command

end Reroute
