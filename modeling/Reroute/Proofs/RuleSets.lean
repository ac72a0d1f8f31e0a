import Reroute.Proofs.FirstFailures
import Reroute.Renaming.RuleSet

set_option autoImplicit false

namespace Reroute.RuleSet

theorem prepare_eq_ok_iff {rules : List SourcedRule} {prepared : List PreparedRule} :
    prepare rules = .ok prepared ↔ List.Forall₂ (fun s r => s.prepare = .ok r) rules prepared :=
  mapM_eq_ok_iff

theorem exists_of_mem_prepare {rules : List SourcedRule} {prepared : List PreparedRule}
    (h : prepare rules = .ok prepared) {r : PreparedRule} (hr : r ∈ prepared) :
    ∃ s ∈ rules, s.prepare = .ok r := by
  have hall := prepare_eq_ok_iff.1 h
  clear h
  induction hall with
  | nil => cases hr
  | cons hs _ ih =>
    rcases List.mem_cons.1 hr with rfl | hr
    · exact ⟨_, List.mem_cons_self, hs⟩
    · obtain ⟨s', hs', hprepare⟩ := ih hr
      exact ⟨s', List.mem_cons_of_mem _ hs', hprepare⟩

theorem findFrom_eq_none_iff {index : Nat} {rules : List PreparedRule} {path : Text} :
    findFrom index rules path = none ↔ ∀ r ∈ rules, r.renamer.replacement? path = none := by
  induction rules generalizing index with
  | nil => simp [findFrom]
  | cons r rules ih =>
    rw [List.forall_mem_cons, findFrom]
    cases h : r.renamer.replacement? path with
    | none => simp only [ih, true_and]
    | some target => simp

theorem replacement?_of_findFrom {index : Nat} {rules : List PreparedRule} {path : Text}
    {hit : Hit} (h : findFrom index rules path = some hit) :
    hit.rule ∈ rules ∧ hit.rule.renamer.replacement? path = some hit.replacement := by
  induction rules generalizing index with
  | nil => cases h
  | cons r rules ih =>
    rw [findFrom] at h
    cases hr : r.renamer.replacement? path with
    | none =>
      simp only [hr] at h
      exact (ih h).imp_left (List.mem_cons_of_mem r)
    | some target =>
      simp only [hr] at h
      obtain rfl := Option.some.inj h
      exact ⟨List.mem_cons_self, hr⟩

theorem find?_eq_none_iff {rules : List PreparedRule} {path : Text} :
    find? rules path = none ↔ ∀ r ∈ rules, r.renamer.replacement? path = none :=
  findFrom_eq_none_iff

/-- Each path of a chain but the first is the replacement of the one before it. -/
inductive Chain (rules : List PreparedRule) : Text → Nat → Text → Prop where
  | refl (path : Text) : Chain rules path 0 path
  | next {path target : Text} {n : Nat} {hit : Hit} (h : find? rules path = some hit)
      (tail : Chain rules hit.replacement n target) : Chain rules path (n + 1) target

theorem Chain.iterate_eq {rules : List PreparedRule} {path target : Text} {n : Nat}
    (h : Chain rules path n target) (hend : find? rules target = none) :
    ∃ hits : List Hit, hits.length = n ∧
      ∀ limit, n < limit → iterate rules path limit = hits.map some ++ [none] := by
  induction h with
  | refl path =>
    refine ⟨[], rfl, fun limit hlimit => ?_⟩
    obtain ⟨limit, rfl⟩ := Nat.exists_eq_add_one_of_ne_zero (Nat.ne_of_gt hlimit)
    simp only [iterate, hend, List.map_nil, List.nil_append]
  | @next path target n hit hhit _ ih =>
    obtain ⟨hits, hlen, hrun⟩ := ih hend
    refine ⟨hit :: hits, by rw [List.length_cons, hlen], fun limit hlimit => ?_⟩
    obtain ⟨limit, rfl⟩ := Nat.exists_eq_add_one_of_ne_zero (Nat.ne_zero_of_lt hlimit)
    simp only [iterate, hhit, hrun limit (Nat.lt_of_succ_lt_succ hlimit), List.map_cons,
      List.cons_append]

/-- A measure that every replacement makes smaller bounds the length of a chain. -/
theorem exists_chain_of_measure {rules : List PreparedRule} (measure : Text → Nat)
    (hlt : ∀ r ∈ rules, ∀ path target, r.renamer.replacement? path = some target →
      measure target < measure path) (path : Text) :
    ∃ n target, n ≤ measure path ∧ Chain rules path n target ∧ find? rules target = none := by
  induction hm : measure path using Nat.strong_induction_on generalizing path with
  | _ m ih =>
    cases hfind : find? rules path with
    | none => exact ⟨0, path, Nat.zero_le _, .refl path, hfind⟩
    | some hit =>
      obtain ⟨hmem, hhit⟩ := replacement?_of_findFrom hfind
      have hless : measure hit.replacement < m := hm ▸ hlt _ hmem _ _ hhit
      obtain ⟨n, target, hn, hchain, hend⟩ := ih _ hless _ rfl
      exact ⟨n + 1, target, by omega, .next hfind hchain, hend⟩

end Reroute.RuleSet
