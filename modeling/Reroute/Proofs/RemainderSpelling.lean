import Reroute.Proofs.VersionHeads

set_option autoImplicit false

namespace Reroute

namespace Path

def steps (p : Text) : List Text :=
  (segments p).filter fun s => !isBlank s

def beginsBlank (p : Text) : Bool :=
  (segments p).head?.any isBlank

theorem foldl_push_steps (atRoot : Bool) (st : List Text) (p : Text) :
    (steps p).foldl (push atRoot) st = (segments p).foldl (push atRoot) st := by
  have hskip : (fun st s => if (!isBlank s) = true then push atRoot st s else st) =
      push atRoot := by
    funext st s
    cases hblank : isBlank s with
    | true => exact (push_blank atRoot st hblank).symm
    | false => rfl
  rw [steps, List.foldl_filter, hskip]

theorem clean_append_slash_congr {p x y : Text} (hp : p ≠ []) (h : steps x = steps y) :
    clean (p ++ '/' :: x) = clean (p ++ '/' :: y) := by
  rw [clean_append_slash hp, clean_append_slash hp, ← foldl_push_steps, h, foldl_push_steps]

theorem head?_steps {p : Text} (h : beginsBlank p = false) :
    (steps p).head? = (segments p).head? := by
  obtain ⟨first, others, hsegs⟩ := List.exists_cons_of_ne_nil (segments_ne_nil p)
  rw [beginsBlank, hsegs] at h
  have hfirst : isBlank first = false := h
  rw [steps, hsegs, List.filter_cons_of_pos (by rw [hfirst]; rfl)]
  rfl

end Path

namespace VersionBump

/-- A remainder that leads into a major version of its own, however it is spelled. -/
def LeadsIntoVersion (rest : Text) : Prop :=
  ∃ first, (Path.steps rest).head? = some first ∧ (Version.suffix? first).isSome = true

theorem leadsIntoVersion_congr {x y : Text} (h : Path.steps x = Path.steps y) :
    LeadsIntoVersion x ↔ LeadsIntoVersion y := by
  rw [LeadsIntoVersion, LeadsIntoVersion, h]

theorem declaresMajor_eq_true_iff {rest : Text} :
    declaresMajor rest = true ↔ LeadsIntoVersion rest ∧ Path.beginsBlank rest = false := by
  obtain ⟨first, others, hsegs⟩ := List.exists_cons_of_ne_nil (Path.segments_ne_nil rest)
  have hdeclares : declaresMajor rest = (Version.suffix? first).isSome := by
    rw [declaresMajor, hsegs]
    rfl
  have hbegins : Path.beginsBlank rest = Path.isBlank first := by
    rw [Path.beginsBlank, hsegs]
    rfl
  rw [hdeclares, hbegins]
  cases hblank : Path.isBlank first with
  | true => simp [Version.suffix?_of_isBlank hblank]
  | false =>
    have hhead := Path.head?_steps (hbegins.trans hblank)
    rw [hsegs] at hhead
    simp [LeadsIntoVersion, hhead]

theorem ite_none_eq_iff {p q : Prop} [Decidable p] [Decidable q] (t : Text) :
    ((if p then none else some t) = if q then none else some t) ↔ (p ↔ q) := by
  split_ifs with hp hq hq <;> simp [hp, hq]

/-- Two spellings of a remainder get the same answer, but for one case: the base declares no
version, the remainder leads into one, and only one of the spellings names it first. -/
theorem same_answer_iff {base x y : Text} {jump : Nat} {b : VersionBump}
    (hmake : make base jump = .ok b) (hsteps : Path.steps x = Path.steps y) :
    b.replacement? (Text.trimSlashes base ++ '/' :: x) =
        b.replacement? (Text.trimSlashes base ++ '/' :: y) ↔
      (b.current = 0 → LeadsIntoVersion x → Path.beginsBlank x = Path.beginsBlank y) := by
  obtain ⟨-, hmade⟩ := make_eq_ok_iff.1 hmake
  have hclean := Path.clean_append_slash_congr hmade.head_ne_nil hsteps
  have hleads := leadsIntoVersion_congr hsteps
  rw [← hmade.base_eq, replacement?_below, replacement?_below, hclean, ite_none_eq_iff,
    declaresMajor_eq_true_iff, declaresMajor_eq_true_iff, ← hleads]
  constructor
  · intro hsame hcurrent hinto
    have hfirst : Path.beginsBlank x = false ↔ Path.beginsBlank y = false := by
      simpa [hcurrent, hinto] using hsame
    exact Bool.eq_iff_iff.2 (by simpa using not_congr hfirst)
  · intro hsame
    refine and_congr_right fun hcurrent => and_congr_right fun hinto => ?_
    rw [hsame hcurrent hinto]

theorem same_answer_iff_behind_blank : ∃ b, make "host/project".toList 1 = .ok b ∧
    Path.steps "./v3//x".toList = Path.steps "/v3/x/".toList ∧
    b.replacement? "host/project/./v3//x".toList =
      b.replacement? "host/project//v3/x/".toList := by
  have hmake : make "host/project".toList 1 =
      .ok ⟨"host/project".toList, "host/project/v2".toList, 0, 2⟩ := by rfl
  have hsteps : Path.steps "./v3//x".toList = Path.steps "/v3/x/".toList := by decide
  have hblank : Path.beginsBlank "./v3//x".toList = Path.beginsBlank "/v3/x/".toList := by decide
  have hsame := (same_answer_iff hmake hsteps).2 fun _ _ => hblank
  have hpath : ∀ rest, "host/project/".toList ++ rest =
      Text.trimSlashes "host/project".toList ++ '/' :: rest := by
    intro rest
    rfl
  rw [← hpath, ← hpath] at hsame
  exact ⟨_, hmake, hsteps, hsame⟩

/-- A path in another version is left alone, and is moved if a slash is doubled. -/
theorem doubled_slash_moves_other_version : ∃ b, make "host/project".toList 1 = .ok b ∧
    Path.steps "v3/data".toList = Path.steps "/v3/data".toList ∧
    b.replacement? "host/project/v3/data".toList = none ∧
    b.replacement? "host/project//v3/data".toList = some "host/project/v2/v3/data".toList :=
  ⟨⟨"host/project".toList, "host/project/v2".toList, 0, 2⟩, by rfl, by rfl, by rfl, by rfl⟩

end VersionBump

end Reroute
