import Reroute.Proofs.VersionHeads

set_option autoImplicit false

namespace Reroute.VersionBump

structure Composed (first second whole : VersionBump) : Prop where
  base : first.base = whole.base
  current : first.current = whole.current
  middle : second.base = first.head
  version : second.current = first.target
  target_ne_zero : first.target ≠ 0
  head : second.head = whole.head

theorem Made.exists_composed {base : Text} {j k : Nat} {whole : VersionBump}
    (h : Made base (j + k) whole) (hj : 0 < j) (hk : 0 < k) : ∃ first second,
      Made base j first ∧ make first.head k = .ok second ∧ Composed first second whole := by
  cases h with
  | unversioned last bound =>
    rw [← Nat.add_assoc] at bound ⊢
    have hfirst : Made base j _ := .unversioned last (by omega)
    have hleast : 2 ≤ 1 + j := by omega
    have hsecond := make_headOf (Text.trimSlashes_idem base) hleast hk bound
    have htarget : 1 + j ≠ 0 := by omega
    exact ⟨_, _, hfirst, hsecond, rfl, rfl, rfl, rfl, htarget, rfl⟩
  | @versioned major last least bound =>
    rw [← Nat.add_assoc] at bound ⊢
    have hfirst : Made base j _ := .versioned last least (by omega)
    have hleast : 2 ≤ major + j := by omega
    have hdir := Text.trimSlashes_idem (Version.splitLast (Text.trimSlashes base)).1
    have hsecond := make_headOf hdir hleast hk bound
    have htarget : major + j ≠ 0 := by omega
    exact ⟨_, _, hfirst, hsecond, rfl, rfl, rfl, rfl, htarget, rfl⟩

/-- Below a base in normal form that declares a version, the remainder may be cleaned before the
move. -/
theorem replacement?_clean_below {b : VersionBump} {rest : Text} (hcurrent : b.current ≠ 0)
    (hbase : Path.clean b.base = b.base) (hstack : Path.stack b.base ≠ []) (hne : b.head ≠ [])
    (hhead : Path.clean b.head = b.head) (hrest : Path.StaysBelow rest) :
    b.replacement? (Path.clean (b.base ++ '/' :: rest)) =
      some (Path.clean (b.head ++ '/' :: rest)) := by
  have hbaseNe : b.base ≠ [] := by
    intro hempty
    rw [hempty] at hbase
    exact absurd hbase (by decide)
  obtain ⟨added, hadds⟩ := hrest.exists_adds
  by_cases hadded : added = []
  · subst hadded
    rw [hadds.clean_append_slash_nil hbaseNe, hadds.clean_append_slash_nil hne, hbase, hhead]
    exact replacement?_base b
  · rw [hadds.clean_append_slash_join hadded hbaseNe hstack, hbase, replacement?_below,
      if_neg fun h => hcurrent h.1, hadds.clean_append_slash hne,
      (hadds.join hadded).clean_append_slash hne]

theorem Composed.replacement?_eq {first second whole : VersionBump}
    (h : Composed first second whole) (hmiddle : Path.clean first.head = first.head)
    (hstack : Path.stack first.head ≠ []) (hne : whole.head ≠ [])
    (hhead : Path.clean whole.head = whole.head) {path : Text}
    (hpath : ¬ Path.Within whole.base path ∨ Path.StaysWithin whole.base path) :
    (whole.replacement? path = none ↔ first.replacement? path = none) ∧
      whole.replacement? path = (first.replacement? path).bind second.replacement? := by
  by_cases hwithin : Path.Within whole.base path
  · rcases hpath.resolve_left (not_not_intro hwithin) with rfl | ⟨rest, rfl, hrest⟩
    · have hfirst := replacement?_base first
      have hsecond := replacement?_base second
      rw [h.base] at hfirst
      rw [h.middle, h.head] at hsecond
      rw [replacement?_base, hfirst, Option.bind_some, hsecond]
      simp
    · have hfirst := replacement?_below first rest
      rw [h.base, h.current] at hfirst
      rw [replacement?_below, hfirst]
      by_cases hother : whole.current = 0 ∧ declaresMajor rest = true
      · simp [hother]
      · have hcurrent : second.current ≠ 0 := by
          rw [h.version]
          exact h.target_ne_zero
        rw [← h.middle] at hmiddle hstack
        rw [← h.head] at hne hhead
        have hsecond := replacement?_clean_below hcurrent hmiddle hstack hne hhead hrest
        rw [h.middle, h.head] at hsecond
        rw [if_neg hother, if_neg hother, Option.bind_some, hsecond]
        simp
  · have hwhole := replacement?_eq_none hwithin
    rw [← h.base] at hwithin
    have hfirst := replacement?_eq_none hwithin
    rw [hwhole, hfirst]
    simp

/-- On a base in normal form, a jump is the same as its two parts one after the other. -/
theorem jumps_compose {base : Text} {j k : Nat} {whole : VersionBump}
    (hclean : Path.clean base = base) (htrim : Text.trimSlashes base = base) (hdot : base ≠ ['.'])
    (hj : 1 ≤ j) (hk : 1 ≤ k) (hwhole : make base (j + k) = .ok whole) :
    ∃ first head second, make base j = .ok first ∧ first.replacement? base = some head ∧
      make head k = .ok second ∧ second.current = first.target ∧
      ∀ path, ¬ Path.Within base path ∨ Path.StaysWithin base path →
        (whole.replacement? path = none ↔ first.replacement? path = none) ∧
        whole.replacement? path = (first.replacement? path).bind second.replacement? := by
  obtain ⟨-, hmade⟩ := make_eq_ok_iff.1 hwhole
  obtain ⟨first, second, hfirst, hsecond, hcomposed⟩ := hmade.exists_composed hj hk
  have hbase : whole.base = base := by rw [hmade.base_eq, htrim]
  have hfirstBase : first.base = base := by rw [hcomposed.base, hbase]
  have hmiddle : Path.clean first.head = first.head :=
    hfirst.clean_head (by rw [hfirstBase, hclean]) (by rwa [hfirstBase])
  have hhead : Path.clean whole.head = whole.head :=
    hmade.clean_head (by rw [hbase, hclean]) (by rwa [hbase])
  have hanswer := replacement?_base first
  rw [hfirstBase] at hanswer
  refine ⟨first, first.head, second, make_eq_ok_iff.2 ⟨hj, hfirst⟩, hanswer, hsecond,
    hcomposed.version, fun path hpath => ?_⟩
  rw [← hbase] at hpath
  exact hcomposed.replacement?_eq hmiddle hfirst.stack_head_ne_nil hmade.head_ne_nil hhead hpath

theorem jumps_compose_leading_zero : ∃ whole first head second,
    make "/p/v02".toList (1 + 2) = .ok whole ∧ make "/p/v02".toList 1 = .ok first ∧
    first.replacement? "/p/v02".toList = some head ∧ make head 2 = .ok second ∧
    second.current = first.target ∧
    whole.replacement? "/p/v02/x//../y/".toList =
      (first.replacement? "/p/v02/x//../y/".toList).bind second.replacement? := by
  have hwhole : make "/p/v02".toList (1 + 2) = .ok ⟨"/p/v02".toList, "/p/v5".toList, 2, 5⟩ := by
    rfl
  obtain ⟨first, head, second, hfirst, hhead, hsecond, hversion, hpaths⟩ :=
    jumps_compose (by rfl) (by rfl) (by decide) (by decide) (by decide) hwhole
  have hpath := hpaths "/p/v02/x//../y/".toList
    (.inr (.inr ⟨"x//../y/".toList, by rfl, by decide⟩))
  exact ⟨_, first, head, second, hwhole, hfirst, hhead, hsecond, hversion, hpath.2⟩

end Reroute.VersionBump
