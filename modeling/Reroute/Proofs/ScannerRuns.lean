import Reroute.Proofs.Scanning
import Reroute.Rule.ScannerRun

set_option autoImplicit false

namespace Reroute

/-- A reader that consumes no more than there is and that has, where it fails, the same failure
right in front of it. -/
structure Steady {α : Type} (read : Text → Nat × Except ScanError α) : Prop where
  consumed_le : ∀ t, (read t).1 ≤ t.length
  fails_again : ∀ {t n e}, t ≠ [] → Unspaced t → read t = (n, .error e) → e ≠ .integerOverflow →
    t.drop n ≠ [] ∧ Unspaced (t.drop n) ∧ read (t.drop n) = (0, .error e)

namespace Scanner

theorem steady_tokenFrom : Steady tokenFrom := by
  constructor
  · intro t
    obtain ⟨u, v, hu, rfl, hv | ⟨e, he⟩⟩ := exists_escape t
    · rw [tokenFrom_escape_boundary hu hv]
      simp
    · rw [tokenFrom_escape_fault hu he]
      simp
  · intro t n e _ _ hread _
    obtain ⟨u, v, hu, rfl, hv | ⟨e', hfault⟩⟩ := exists_escape t
    · rw [tokenFrom_escape_boundary hu hv] at hread
      cases hread
    · rw [tokenFrom_escape_fault hu hfault] at hread
      obtain ⟨rfl, rfl⟩ : (Rule.escape u).length = n ∧ e' = e := by simpa using hread
      rw [List.drop_left]
      exact ⟨hfault.ne_nil, hfault.unspaced, tokenFrom_fault hfault⟩

theorem operatorFrom_cases (t : Text) :
    (∃ op u, t = op.text ++ u ∧ operatorFrom t = (op.text.length, .ok op)) ∨
      operatorFrom t = (0, .error .operatorExpected) := by
  by_cases h : NoOperator t
  · exact .inr (operatorFrom_noOperator h)
  · obtain ⟨op, u, rfl⟩ := exists_operator_of_not h
    exact .inl ⟨op, u, rfl, operatorFrom_text_append op u⟩

theorem steady_operatorFrom : Steady operatorFrom := by
  constructor
  · intro t
    rcases operatorFrom_cases t with ⟨op, u, rfl, hop⟩ | hnone
    · rw [hop]
      simp
    · rw [hnone]
      exact Nat.zero_le _
  · intro t n e hne hspace hread _
    rcases operatorFrom_cases t with ⟨op, u, -, hop⟩ | hnone
    · cases hop.symm.trans hread
    · obtain ⟨rfl, rfl⟩ : 0 = n ∧ ScanError.operatorExpected = e := by
        simpa using hnone.symm.trans hread
      exact ⟨hne, hspace, hnone⟩

theorem integerFrom_cases (t : Text) : ∃ digits u result, t = digits ++ u ∧
    integerFrom 0 t = (digits.length, result) ∧
    ∀ e, result = .error e → e = .integerOverflow ∨
      e = .digitExpected ∧ ∃ c v, u = c :: v ∧ c.isDigit = false ∧ c ≠ ' ' := by
  obtain ⟨digits, u, hdigits, hle, rfl, hu⟩ := exists_digits t 0 (Nat.zero_le _)
  have happend := integerFrom_append hdigits 0 u hle
  rcases hu with hu | ⟨c, v, rfl, ⟨hc, hlarge⟩ | ⟨hc, hspace⟩⟩
  · rw [integerFrom_boundary hu] at happend
    exact ⟨digits, u, _, rfl, happend, fun e he => (nomatch he)⟩
  · rw [Text.decimalValueFrom_append] at hlarge
    rw [integerFrom_tooLarge hc hlarge] at happend
    exact ⟨digits, c :: v, _, rfl, happend, fun e he => .inl (Except.error.inj he).symm⟩
  · rw [integerFrom_noDigit hc hspace] at happend
    refine ⟨digits, c :: v, _, rfl, happend, fun e he => ?_⟩
    exact .inr ⟨(Except.error.inj he).symm, c, v, rfl, hc, hspace⟩

theorem steady_integerFrom : Steady (integerFrom 0) := by
  constructor
  · intro t
    obtain ⟨digits, u, result, rfl, hread, -⟩ := integerFrom_cases t
    rw [hread]
    simp
  · intro t n e _ _ hread he
    obtain ⟨digits, u, result, rfl, hresult, hfailure⟩ := integerFrom_cases t
    obtain ⟨rfl, rfl⟩ := Prod.mk.inj (hresult.symm.trans hread)
    obtain ⟨rfl, c, v, rfl, hc, hspace⟩ := (hfailure e rfl).resolve_left he
    rw [List.drop_left]
    exact ⟨List.cons_ne_nil c v, hspace, integerFrom_noDigit hc hspace 0 v⟩

structure Advances (s s' : Scanner) : Prop where
  text_eq : s'.text = s.text
  position_le : s.position ≤ s'.cursor
  cursor_le : s'.cursor ≤ s'.text.length

theorem cursor_le_position (s : Scanner) : s.cursor ≤ s.position :=
  Nat.le_add_right _ _

theorem position_le_length {s : Scanner} (h : s.cursor ≤ s.text.length) :
    s.position ≤ s.text.length := by
  have hspaces : ((s.text.drop s.cursor).takeWhile (· == ' ')).length ≤
      (s.text.drop s.cursor).length := (List.takeWhile_sublist _).length_le
  rw [List.length_drop] at hspaces
  rw [position]
  omega

theorem exists_between {s : Scanner} (h : s.cursor ≤ s.text.length) :
    ∃ before n t, Unspaced t ∧ s = between before (spaces n ++ t) := by
  obtain ⟨n, t, ht, hdrop⟩ := exists_spaces (s.text.drop s.cursor)
  refine ⟨s.text.take s.cursor, n, t, ht, ?_⟩
  rw [between, ← hdrop, List.take_append_drop, List.length_take_of_le h]

theorem advances_between (before : Text) (n : Nat) {t u : Text} (h : Unspaced (t ++ u)) :
    Advances (between before (spaces n ++ (t ++ u))) (between (before ++ (spaces n ++ t)) u) := by
  constructor
  · simp [between]
  · rw [between_position before n h]
    simp [between]
  · simp [between]

section Step

variable {α : Type} {read : Text → Nat × Except ScanError α}

theorem step_eq (hread : Steady read) (before : Text) (n : Nat) {t : Text} (hne : t ≠ [])
    (hspace : Unspaced t) : (between before (spaces n ++ t)).step read =
      ((read t).2, between (before ++ (spaces n ++ t.take (read t).1)) (t.drop (read t).1)) := by
  have ht : t.take (read t).1 ++ t.drop (read t).1 = t := List.take_append_drop _ _
  have hconsumed : read (t.take (read t).1 ++ t.drop (read t).1) =
      ((t.take (read t).1).length, (read t).2) := by
    rw [ht, List.length_take_of_le (hread.consumed_le t)]
  have hstep := step_between before n (by rwa [ht]) (by rwa [ht]) hconsumed
  rwa [ht] at hstep

theorem step_advances (hread : Steady read) {s : Scanner} (h : s.cursor ≤ s.text.length) :
    Advances s (s.step read).2 := by
  obtain ⟨before, n, t, hspace, rfl⟩ := exists_between h
  by_cases hne : t = []
  · subst hne
    rw [List.append_nil, step_spaces]
    simpa using advances_between before n (t := []) (u := []) trivial
  · rw [step_eq hread before n hne hspace]
    have ht : t.take (read t).1 ++ t.drop (read t).1 = t := List.take_append_drop _ _
    have hadvances := advances_between before n (ht.symm ▸ hspace)
    rwa [ht] at hadvances

theorem step_fails_again (hread : Steady read) {s s' : Scanner} {e : ScanError}
    (h : s.cursor ≤ s.text.length) (hs : s.step read = (.error e, s')) (he : e ≠ .integerOverflow) :
    s'.step read = (.error e, s') := by
  obtain ⟨before, n, t, hspace, rfl⟩ := exists_between h
  by_cases hne : t = []
  · subst hne
    rw [List.append_nil, step_spaces] at hs
    obtain ⟨hfailure, rfl⟩ := Prod.mk.inj hs
    have hagain := step_spaces read (before ++ spaces n) 0
    rw [spaces_zero, List.append_nil] at hagain
    rw [hagain, hfailure]
  · rw [step_eq hread before n hne hspace] at hs
    obtain ⟨hfailure, rfl⟩ := Prod.mk.inj hs
    have hpair : read t = ((read t).1, .error e) := Prod.ext rfl hfailure
    obtain ⟨hrest, hunspaced, hagain⟩ := hread.fails_again hne hspace hpair he
    have hstep := step_eq hread (before ++ (spaces n ++ t.take (read t).1)) 0 hrest hunspaced
    rw [hagain] at hstep
    simpa using hstep

end Step

theorem atEnd_advances {s : Scanner} (h : s.cursor ≤ s.text.length) : Advances s s.atEnd.2 := by
  obtain ⟨before, n, t, hspace, rfl⟩ := exists_between h
  rw [atEnd_between before n hspace]
  simpa using advances_between before n (t := []) hspace

theorem atEnd_fails_again {s s' : Scanner} {e : ScanError} (h : s.cursor ≤ s.text.length)
    (hs : s.atEnd = (.error e, s')) : s'.atEnd = (.error e, s') := by
  obtain ⟨before, n, t, hspace, rfl⟩ := exists_between h
  rw [atEnd_between before n hspace] at hs
  obtain ⟨hfailure, rfl⟩ := Prod.mk.inj hs
  have hagain := atEnd_between (before ++ spaces n) 0 hspace
  rw [hfailure] at hagain
  simpa using hagain

theorem eq_of_outcome {α : Type} {p : Except ScanError α × Scanner} {e : ScanError} {s' : Scanner}
    (h : outcome p = (.error e, s')) : p = (.error e, s') := by
  obtain ⟨result, s⟩ := p
  cases result with
  | ok a => cases h
  | error e' =>
    cases h
    rfl

section Read

variable {s s' : Scanner} {e : ScanError}

theorem read_advances (h : s.cursor ≤ s.text.length) (step : ReadStep) :
    Advances s (s.read step).2 := by
  cases step with
  | token => exact step_advances steady_tokenFrom h
  | operator => exact step_advances steady_operatorFrom h
  | integer => exact step_advances steady_integerFrom h
  | atEnd => exact atEnd_advances h

theorem read_fails_again (h : s.cursor ≤ s.text.length) (step : ReadStep)
    (hs : s.read step = (.error e, s')) (he : e ≠ .integerOverflow) :
    s'.read step = (.error e, s') := by
  cases step with
  | token =>
    have hagain := step_fails_again steady_tokenFrom h (eq_of_outcome hs) he
    rw [read, nextToken, hagain]
    rfl
  | operator =>
    have hagain := step_fails_again steady_operatorFrom h (eq_of_outcome hs) he
    rw [read, nextOperator, hagain]
    rfl
  | integer =>
    have hagain := step_fails_again steady_integerFrom h (eq_of_outcome hs) he
    rw [read, nextInteger, hagain]
    rfl
  | atEnd => exact atEnd_fails_again h hs

theorem exists_of_nextToken_eq_ok {token : Text} (h : s.cursor ≤ s.text.length)
    (hs : s.nextToken = (.ok token, s')) : Operand token ∧
      ∃ before after, s.text = before ++ (Rule.escape token ++ after) ∧
        before.length = s.position ∧ (before ++ Rule.escape token).length = s'.cursor ∧
        Boundary after := by
  obtain ⟨before, n, t, hspace, rfl⟩ := exists_between h
  by_cases hne : t = []
  · subst hne
    rw [List.append_nil, nextToken, step_spaces] at hs
    cases hs
  · rw [nextToken, step_eq steady_tokenFrom before n hne hspace] at hs
    obtain ⟨hresult, rfl⟩ := Prod.mk.inj hs
    obtain ⟨u, v, hu, rfl, hv | ⟨e, hfault⟩⟩ := exists_escape t
    · rw [tokenFrom_escape_boundary hu hv] at hresult ⊢
      obtain rfl := Except.ok.inj hresult
      refine ⟨⟨?_, hu⟩, before ++ spaces n, v, ?_, ?_, ?_, hv⟩
      · -- An empty token would end where it begins, and there is no space there.
        rintro rfl
        cases v with
        | nil => exact hne rfl
        | cons c v => exact hspace hv
      · simp [between]
      · rw [between_position before n hspace]
        simp
      · simp [between]
    · rw [tokenFrom_escape_fault hu hfault] at hresult
      cases hresult

end Read

end Scanner

structure Scanner.Inside (t : Text) (s : Scanner) : Prop where
  text_eq : s.text = t
  cursor_le : s.cursor ≤ s.text.length

theorem Scanner.Inside.read {t : Text} {s : Scanner} (h : s.Inside t) (step : ReadStep) :
    (s.read step).2.Inside t := by
  have hadvances := read_advances h.cursor_le step
  exact ⟨hadvances.text_eq.trans h.text_eq, hadvances.cursor_le⟩

namespace RunState

/-- The invariant of a run: it is kept for the copies too, as each may become the scanner. -/
structure Sound (t : Text) (σ : RunState) : Prop where
  scanner : σ.scanner.Inside t
  copies : ∀ s ∈ σ.copies, s.Inside t

variable {t : Text} {σ : RunState}

theorem sound_start (t : Text) : (start t).Sound t where
  scanner := ⟨rfl, Nat.zero_le _⟩
  copies := List.forall_mem_nil _

theorem Sound.after (h : σ.Sound t) (step : RunStep) : (σ.after step).Sound t := by
  cases step with
  | read step => exact ⟨h.scanner.read step, h.copies⟩
  | snapshot => exact ⟨h.scanner, List.forall_mem_cons.2 ⟨h.scanner, h.copies⟩⟩
  | restore age =>
    refine ⟨?_, h.copies⟩
    rw [RunState.after, List.getD_eq_getElem?_getD]
    cases hcopy : σ.copies[age]? with
    | none => exact h.scanner
    | some s => exact h.copies s (List.mem_of_getElem? hcopy)

theorem Sound.run (h : σ.Sound t) (steps : List RunStep) : (σ.run steps).Sound t := by
  induction steps generalizing σ with
  | nil => exact h
  | cons step steps ih => exact ih (h.after step)

theorem Sound.after_forward (h : σ.Sound t) {step : RunStep} (hstep : ∀ age, step ≠ .restore age) :
    σ.scanner.cursor ≤ (σ.after step).scanner.cursor ∧
      σ.scanner.position ≤ (σ.after step).scanner.position := by
  cases step with
  | read step =>
    have hadvances := Scanner.read_advances h.scanner.cursor_le step
    have hcursor := hadvances.position_le
    exact ⟨(Scanner.cursor_le_position _).trans hcursor,
      hcursor.trans (Scanner.cursor_le_position _)⟩
  | snapshot => exact ⟨le_rfl, le_rfl⟩
  | restore age => exact absurd rfl (hstep age)

theorem Sound.run_forward (h : σ.Sound t) {steps : List RunStep}
    (hsteps : ∀ age, RunStep.restore age ∉ steps) :
    σ.scanner.cursor ≤ (σ.run steps).scanner.cursor ∧
      σ.scanner.position ≤ (σ.run steps).scanner.position := by
  induction steps generalizing σ with
  | nil => exact ⟨le_rfl, le_rfl⟩
  | cons step steps ih =>
    have hfirst := h.after_forward fun age hage => hsteps age (hage ▸ List.mem_cons_self)
    have hrest := ih (h.after step) fun age hage => hsteps age (List.mem_cons_of_mem _ hage)
    exact ⟨hfirst.1.trans hrest.1, hfirst.2.trans hrest.2⟩

/-- Whatever is done with a scanner, its cursor stands in the text, which does not change, and only
going back to a copy moves it back. A token is then read from how it is written. A step that fails
fails again, at the same place, unless it read a number that is too large. -/
theorem runs_stay_sound (t : Text) (steps : List RunStep) :
    let σ := (start t).run steps
    (σ.scanner.text = t ∧ σ.scanner.cursor ≤ t.length ∧ σ.scanner.position ≤ t.length ∧
      σ.scanner.position + σ.scanner.remaining = t.length) ∧
    (∀ more, (∀ age, RunStep.restore age ∉ more) →
      σ.scanner.cursor ≤ (σ.run more).scanner.cursor ∧
        σ.scanner.position ≤ (σ.run more).scanner.position) ∧
    (∀ token s', σ.scanner.nextToken = (.ok token, s') → Operand token ∧
      ∃ before after, t = before ++ (Rule.escape token ++ after) ∧
        before.length = σ.scanner.position ∧
        (before ++ Rule.escape token).length = s'.cursor ∧ Boundary after) ∧
    ∀ step e s', σ.scanner.read step = (.error e, s') → e ≠ .integerOverflow →
      s'.read step = (.error e, s') := by
  intro σ
  have hsound : σ.Sound t := (sound_start t).run steps
  obtain ⟨htext, hcursor⟩ := hsound.scanner
  have hposition := Scanner.position_le_length hcursor
  refine ⟨?_, fun more hmore => hsound.run_forward hmore, fun token s' hs => ?_, ?_⟩
  · rw [Scanner.remaining, ← htext]
    exact ⟨rfl, hcursor, hposition, Nat.add_sub_cancel' hposition⟩
  · rw [← htext]
    exact Scanner.exists_of_nextToken_eq_ok hcursor hs
  · exact fun step e s' hs he => Scanner.read_fails_again hcursor step hs he

theorem runs_stay_sound_escaped_space :
    let σ := (start "a\\ b c\\d".toList).run [.read .integer, .read .operator, .snapshot]
    let failed := (σ.run [.read .token]).scanner.read .token
    σ.scanner.nextToken = (.ok "a b".toList, ⟨"a\\ b c\\d".toList, 4⟩) ∧ Operand "a b".toList ∧
    failed.1 = .error .spaceExpectedAfterEscape ∧ failed.2.read .token = failed ∧
    σ.scanner.position ≤ failed.2.position ∧
    ((σ.run [.read .token, .read .token]).run [.restore 0]).scanner.cursor ≤ 8 := by
  intro σ failed
  have hσ := runs_stay_sound "a\\ b c\\d".toList [.read .integer, .read .operator, .snapshot]
  obtain ⟨-, hforward, htoken, -⟩ := hσ
  have hread : σ.scanner.nextToken = (.ok "a b".toList, ⟨"a\\ b c\\d".toList, 4⟩) := by decide
  have hfailed : failed = (.error .spaceExpectedAfterEscape, failed.2) := by decide
  obtain ⟨-, -, -, hagain⟩ := runs_stay_sound "a\\ b c\\d".toList
    [.read .integer, .read .operator, .snapshot, .read .token]
  obtain ⟨⟨-, hcursor, -⟩, -⟩ := runs_stay_sound "a\\ b c\\d".toList
    [.read .integer, .read .operator, .snapshot, .read .token, .read .token, .restore 0]
  refine ⟨hread, (htoken _ _ hread).1, congrArg Prod.fst hfailed, ?_, ?_, hcursor⟩
  · exact (hagain .token _ _ hfailed (by decide)).trans hfailed.symm
  · exact (hforward [.read .token, .read .token] (by simp)).2

example : let s := (Scanner.ofText "99999999999".toList).nextInteger.2
    s.cursor = 9 ∧ s.nextInteger.1 = .ok 99 := by
  decide

end RunState

end Reroute
