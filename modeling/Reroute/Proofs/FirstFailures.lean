import Mathlib

set_option autoImplicit false

namespace Reroute

variable {ε α β : Type}

theorem bind_eq_ok_iff {x : Except ε α} {f : α → Except ε β} {b : β} :
    x >>= f = .ok b ↔ ∃ a, x = .ok a ∧ f a = .ok b := by
  cases x with
  | error e => simp [bind, Except.bind]
  | ok a => simp [bind, Except.bind]

theorem map_eq_ok_iff {x : Except ε α} {g : α → β} {b : β} :
    g <$> x = .ok b ↔ ∃ a, x = .ok a ∧ g a = b := by
  cases x with
  | error e => simp
  | ok a => simp

theorem map_eq_error_iff {x : Except ε α} {g : α → β} {e : ε} :
    g <$> x = .error e ↔ x = .error e := by
  cases x with
  | error e' => simp
  | ok a => simp

theorem mapM_cons_of_ok {f : α → Except ε β} {a : α} {b : β} (h : f a = .ok b) (l : List α) :
    (a :: l).mapM f = (b :: ·) <$> l.mapM f := by
  rw [List.mapM_cons, h]
  rfl

theorem mapM_cons_of_error {f : α → Except ε β} {a : α} {e : ε} (h : f a = .error e)
    (l : List α) : (a :: l).mapM f = .error e := by
  rw [List.mapM_cons, h]
  rfl

theorem mapM_eq_ok_iff {f : α → Except ε β} {l : List α} {bs : List β} :
    l.mapM f = .ok bs ↔ List.Forall₂ (fun a b => f a = .ok b) l bs := by
  induction l generalizing bs with
  | nil =>
    rw [List.forall₂_nil_left_iff]
    exact ⟨fun h => (Except.ok.inj h).symm, fun h => h ▸ rfl⟩
  | cons a l ih =>
    rw [List.forall₂_cons_left_iff]
    cases ha : f a with
    | error e => simp [mapM_cons_of_error ha]
    | ok b =>
      rw [mapM_cons_of_ok ha, map_eq_ok_iff]
      simp only [ih, Except.ok.injEq]
      constructor
      · rintro ⟨rest, hrest, rfl⟩
        exact ⟨b, rest, rfl, hrest, rfl⟩
      · rintro ⟨_, rest, rfl, hrest, rfl⟩
        exact ⟨rest, hrest, rfl⟩

/-- The failure of a list of steps is that of the first step that fails. -/
theorem mapM_eq_error_iff {f : α → Except ε β} {l : List α} {e : ε} :
    l.mapM f = .error e ↔ ∃ before a after, l = before ++ a :: after ∧
      (∀ x ∈ before, ∃ b, f x = .ok b) ∧ f a = .error e := by
  induction l with
  | nil =>
    refine ⟨fun h => (by cases h), ?_⟩
    rintro ⟨before, a, after, h, -⟩
    exact absurd h (by simp)
  | cons a l ih =>
    constructor
    · intro h
      cases ha : f a with
      | error e' =>
        rw [mapM_cons_of_error ha] at h
        obtain rfl := Except.error.inj h
        exact ⟨[], a, l, rfl, by simp, ha⟩
      | ok b =>
        rw [mapM_cons_of_ok ha, map_eq_error_iff] at h
        obtain ⟨before, x, after, rfl, hbefore, hx⟩ := ih.1 h
        exact ⟨a :: before, x, after, rfl, List.forall_mem_cons.2 ⟨⟨b, ha⟩, hbefore⟩, hx⟩
    · rintro ⟨before, x, after, heq, hbefore, hx⟩
      cases before with
      | nil =>
        obtain ⟨rfl, rfl⟩ := List.cons.inj heq
        exact mapM_cons_of_error hx l
      | cons y before =>
        obtain ⟨rfl, rfl⟩ := List.cons.inj heq
        obtain ⟨⟨b, ha⟩, hbefore⟩ := List.forall_mem_cons.1 hbefore
        rw [mapM_cons_of_ok ha, map_eq_error_iff]
        exact ih.2 ⟨before, x, after, rfl, hbefore, hx⟩

theorem exists_mapM_eq_ok_iff {f : α → Except ε β} {l : List α} :
    (∃ bs, l.mapM f = .ok bs) ↔ ∀ a ∈ l, ∃ b, f a = .ok b := by
  induction l with
  | nil => exact ⟨fun _ a ha => absurd ha List.not_mem_nil, fun _ => ⟨[], rfl⟩⟩
  | cons a l ih =>
    rw [List.forall_mem_cons, ← ih]
    cases ha : f a with
    | error e => simp [mapM_cons_of_error ha]
    | ok b => simp [mapM_cons_of_ok ha, map_eq_ok_iff]

theorem collect_cons_ok (a : α) (l : List (Except ε α)) :
    (.ok a :: l).mapM id = (a :: ·) <$> l.mapM id :=
  mapM_cons_of_ok (f := id) rfl l

theorem collect_cons_error (e : ε) (l : List (Except ε α)) :
    (.error e :: l).mapM id = (.error e : Except ε (List α)) :=
  mapM_cons_of_error (f := id) rfl l

theorem collect_eq_ok_iff {l : List (Except ε α)} {as : List α} :
    l.mapM id = .ok as ↔ l = as.map .ok := by
  rw [mapM_eq_ok_iff, ← List.forall₂_eq_eq_eq, List.forall₂_map_right_iff]
  rfl

theorem collect_eq_error_iff {l : List (Except ε α)} {e : ε} :
    l.mapM id = .error e ↔
      ∃ (as : List α) (rest : List (Except ε α)), l = as.map .ok ++ .error e :: rest := by
  rw [mapM_eq_error_iff]
  constructor
  · rintro ⟨before, _, rest, rfl, hbefore, rfl⟩
    obtain ⟨as, has⟩ := exists_mapM_eq_ok_iff.2 hbefore
    exact ⟨as, rest, by rw [collect_eq_ok_iff.1 has]⟩
  · rintro ⟨as, rest, rfl⟩
    exact ⟨as.map .ok, .error e, rest, rfl, by simp, rfl⟩

end Reroute
