import Reroute.Proofs.PathWeight
import Reroute.Proofs.RuleSets
import Reroute.Proofs.VersionBumps

set_option autoImplicit false

namespace Reroute

namespace VersionBump

theorem weightFrom_segments_headOf_le (dir : Text) (major : Nat) (rest : List Text) :
    Path.weightFrom false (Path.segments (headOf dir major) ++ rest) ≤
      Path.weightFrom false (Path.segments dir ++ Version.segment major :: rest) := by
  rw [segments_headOf, List.append_assoc, List.singleton_append]
  by_cases hdir : dir = []
  · subst hdir
    exact Path.weightFrom_le_plain_cons false Version.suffix?_nil _
  · rw [if_neg hdir]

theorem Made.weightFrom_head_lt {base : Text} {jump : Nat} {b : VersionBump}
    (h : Made base jump b) (hjump : 0 < jump) {rest : List Text}
    (hrest : b.current = 0 → ∀ s ∈ rest.head?, Version.suffix? s = none) :
    Path.weightFrom false (Path.segments b.head ++ rest) <
      Path.weightFrom false (Path.segments b.base ++ rest) := by
  obtain ⟨front, hfront, hbefore⟩ := Version.segments_splitLast (Text.trimSlashes base)
  cases h with
  | unversioned hlast hbound =>
    refine (weightFrom_segments_headOf_le _ _ rest).trans_lt ?_
    rw [hfront]
    exact Path.weightFrom_segment_lt_of_place false front hlast hbound (hrest rfl)
  | @versioned major hlast hleast hbound =>
    have hmove := Path.weightFrom_segment_lt_of_version false front hlast
      (Nat.lt_add_of_pos_right hjump) hbound rest
    rw [hfront, List.append_assoc, List.singleton_append]
    -- What is in front of the old version may only get lighter: slashes are trimmed.
    refine lt_of_le_of_lt ?_ hmove
    rcases hbefore with ⟨rfl, hbefore⟩ | rfl
    · rw [hbefore]
      change Path.weightFrom false (Path.segments (headOf [] (major + jump)) ++ rest) ≤ _
      rw [segments_headOf, if_pos rfl]
      exact Nat.le_refl _
    · exact (weightFrom_segments_headOf_le _ _ rest).trans
        (Path.weightFrom_trimSlashes_le false _ _)

/-- Every move makes the path lighter. -/
theorem weight_lt_of_replacement? {base : Text} {jump : Nat} {b : VersionBump}
    (h : make base jump = .ok b) {path target : Text} (hpath : b.replacement? path = some target) :
    Path.weight target < Path.weight path := by
  obtain ⟨hjump, hmade⟩ := make_eq_ok_iff.1 h
  rcases replacement?_eq_some_iff.1 hpath with ⟨rfl, rfl⟩ | ⟨rest, rfl, hother, rfl⟩
  · have hlt : Path.weightFrom false (Path.segments b.head ++ []) <
        Path.weightFrom false (Path.segments b.base ++ []) :=
      hmade.weightFrom_head_lt hjump (by simp)
    rwa [List.append_nil, List.append_nil] at hlt
  · refine (Path.weight_clean_le _).trans_lt ?_
    rw [Path.weight, Path.weight, Path.segments_append_slash, Path.segments_append_slash]
    refine hmade.weightFrom_head_lt hjump fun hcurrent => declaresMajor_eq_false_iff.1 ?_
    exact Bool.eq_false_iff.2 fun hdeclares => hother ⟨hcurrent, hdeclares⟩

end VersionBump

theorem exists_of_prepare_bump {s : SourcedRule} {r : PreparedRule} {base : Text} {jump : Nat}
    (hbump : s.rule = .bump base jump) (h : s.prepare = .ok r) :
    ∃ b, VersionBump.make base jump = .ok b ∧ r.renamer = .version b := by
  rw [SourcedRule.prepare, hbump, Renamer.ofRule] at h
  cases hmake : VersionBump.make base jump with
  | error e =>
    rw [hmake] at h
    cases h
  | ok b =>
    rw [hmake] at h
    cases h
    exact ⟨b, rfl, rfl⟩

/-- From every path, replacing again and again by rules that raise versions comes to an end. -/
theorem version_rules_terminate {rules : List SourcedRule} {prepared : List PreparedRule}
    (hrules : ∀ r ∈ rules, ∃ base jump, r.rule = .bump base jump)
    (hprepare : RuleSet.prepare rules = .ok prepared) (path : Text) :
    ∃ n target, RuleSet.Chain prepared path n target ∧
      ∀ r ∈ prepared, r.renamer.replacement? target = none := by
  have hlighter : ∀ r ∈ prepared, ∀ path target, r.renamer.replacement? path = some target →
      Path.weight target < Path.weight path := by
    intro r hr path target hpath
    obtain ⟨s, hs, hprepare⟩ := RuleSet.exists_of_mem_prepare hprepare hr
    obtain ⟨base, jump, hbump⟩ := hrules s hs
    obtain ⟨b, hmake, hrenamer⟩ := exists_of_prepare_bump hbump hprepare
    rw [hrenamer] at hpath
    exact VersionBump.weight_lt_of_replacement? hmake hpath
  obtain ⟨n, target, -, hchain, hend⟩ := RuleSet.exists_chain_of_measure Path.weight hlighter path
  exact ⟨n, target, hchain, RuleSet.find?_eq_none_iff.1 hend⟩

theorem version_rules_terminate_fed : ∃ prepared,
    RuleSet.prepare [⟨.bump "p".toList 1, .commandLine⟩, ⟨.bump "p/v2".toList 1, .commandLine⟩] =
      .ok prepared ∧
    ∃ n target, RuleSet.Chain prepared "p/x".toList n target ∧
      ∀ r ∈ prepared, r.renamer.replacement? target = none := by
  have hprepare : RuleSet.prepare
      [⟨.bump "p".toList 1, .commandLine⟩, ⟨.bump "p/v2".toList 1, .commandLine⟩] =
      .ok [⟨.bump "p".toList 1, .version ⟨"p".toList, "p/v2".toList, 0, 2⟩, .commandLine⟩,
        ⟨.bump "p/v2".toList 1, .version ⟨"p/v2".toList, "p/v3".toList, 2, 3⟩, .commandLine⟩] := by
    rfl
  refine ⟨_, hprepare, version_rules_terminate (fun r hr => ?_) hprepare _⟩
  rcases List.mem_pair.1 hr with rfl | rfl
  · exact ⟨_, _, rfl⟩
  · exact ⟨_, _, rfl⟩

example : (RuleSet.prepare [⟨.bump "p".toList 1, .commandLine⟩,
      ⟨.bump "p/v2".toList 1, .commandLine⟩]).toOption.map
      (fun prepared => (RuleSet.iterate prepared "p/x".toList 3).map (·.map (·.replacement))) =
    some [some "p/v2/x".toList, some "p/v3/x".toList, none] := by
  rfl

end Reroute
