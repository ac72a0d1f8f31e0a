import Reroute.Proofs.VersionHeads

set_option autoImplicit false

namespace Reroute.VersionBump

variable {b : VersionBump} {front own : List Text}

theorem Fork.head_append (h : Fork b front own) {back : List Text}
    (hsegs : Path.segments b.head = Path.segments b.base ++ back) :
    b.current = 0 ∧ back = [Version.segment b.target] := by
  obtain ⟨n, hn⟩ := h.base
  rw [h.head, hn, List.append_assoc] at hsegs
  have hback := List.append_cancel_left hsegs
  cases n with
  | succ n =>
    have hempty : Version.segment b.target = [] := (List.cons.inj hback).1
    cases hempty
  | zero =>
    rcases h.own with ⟨hcurrent, rfl⟩ | ⟨last, rfl, -, hne⟩
    · exact ⟨hcurrent, hback.symm⟩
    · exact absurd (List.cons.inj hback).1.symm hne

theorem Fork.foldl_push_base (h : Fork b front own) (atRoot : Bool) :
    (Path.segments b.base).foldl (Path.push atRoot) [] =
      own ++ front.foldl (Path.push atRoot) [] := by
  obtain ⟨n, hn⟩ := h.base
  rw [hn, List.foldl_append, List.foldl_append, Path.foldl_push_replicate_nil]
  rcases h.own with ⟨-, rfl⟩ | ⟨last, rfl, hlast, -⟩
  · rfl
  · rw [List.foldl_cons, List.foldl_nil, hlast.push]
    rfl

theorem Fork.foldl_push_head (h : Fork b front own) (atRoot : Bool) :
    (Path.segments b.head).foldl (Path.push atRoot) [] =
      Version.segment b.target :: front.foldl (Path.push atRoot) [] := by
  rw [h.head, List.foldl_append, List.foldl_cons, List.foldl_nil,
    (Version.isName_segment b.target).push]

theorem Fork.stack_append (h : Fork b front own) {atRoot : Bool} {added back : List Text}
    (hstack : added ++ (Path.segments b.head).foldl (Path.push atRoot) [] =
      back.reverse ++ (Path.segments b.base).foldl (Path.push atRoot) []) :
    b.current = 0 ∧ back = Version.segment b.target :: added.reverse := by
  rw [h.foldl_push_base, h.foldl_push_head, List.append_cons, ← List.append_assoc] at hstack
  have htop := List.append_cancel_right hstack
  rcases h.own with ⟨hcurrent, rfl⟩ | ⟨last, rfl, -, hne⟩
  · rw [List.append_nil] at htop
    have hback := congrArg List.reverse htop
    rw [List.reverse_append, List.reverse_reverse] at hback
    exact ⟨hcurrent, hback.symm⟩
  · have hlast := (List.append_inj' htop rfl).2
    exact absurd (List.cons.inj hlast).1.symm hne

theorem Made.back_of_segments {base path target : Text} {jump : Nat} (h : Made base jump b)
    (hjump : 0 < jump) (hpath : Path.StaysWithin b.base path)
    (htarget : b.replacement? path = some target) {back : List Text}
    (hsegs : Path.segments target = Path.segments b.base ++ back) :
    b.current = 0 ∧ ∃ more, back = Version.segment b.target :: more := by
  obtain ⟨front, own, hfork⟩ := h.exists_fork hjump
  rcases hpath with rfl | ⟨rest, rfl, hstays⟩
  · -- The head is taken as it is, so its segments are compared one by one.
    rw [replacement?_base] at htarget
    obtain rfl := Option.some.inj htarget
    obtain ⟨hcurrent, hback⟩ := hfork.head_append hsegs
    exact ⟨hcurrent, [], hback⟩
  · -- The target is in normal form, so what it shares with the base is too.
    rw [replacement?_below] at htarget
    split_ifs at htarget
    obtain ⟨added, hadds⟩ := hstays.exists_adds
    rw [hadds.clean_append_slash h.head_ne_nil] at htarget
    obtain rfl := Option.some.inj htarget
    have hne : added ++ Path.stack b.head ≠ [] := by
      simp [h.stack_head_ne_nil]
    have hstack := (hadds.normalStack b.head).eq_append_of_segments hne
      (Path.segments_ne_nil b.base) hsegs
    obtain ⟨hcurrent, hback⟩ := hfork.stack_append hstack
    exact ⟨hcurrent, _, hback⟩

theorem Made.within_base {base path target : Text} {jump : Nat} (h : Made base jump b)
    (hjump : 0 < jump) (hpath : Path.StaysWithin b.base path)
    (htarget : b.replacement? path = some target) (hwithin : Path.Within b.base target) :
    b.current = 0 ∧ ∃ rest, target = b.base ++ '/' :: rest ∧ declaresMajor rest = true := by
  obtain ⟨back, hsegs, hrest⟩ := hwithin.exists_segments
  obtain ⟨hcurrent, more, hback⟩ := h.back_of_segments hjump hpath htarget hsegs
  obtain ⟨rest, htargetRest, hrestSegs⟩ := hrest (by rw [hback]; exact List.cons_ne_nil _ _)
  have hdeclares : declaresMajor rest = true := by
    rw [declaresMajor, hrestSegs, hback, List.head?_cons]
    exact Option.isSome_iff_exists.2 ⟨_, Version.suffix?_segment h.target_le⟩
  exact ⟨hcurrent, rest, htargetRest, hdeclares⟩

theorem Made.current_eq {base : Text} {j k : Nat} {b' : VersionBump} (h : Made base j b)
    (h' : Made base k b') : b.current = b'.current := by
  cases h with
  | unversioned last _ =>
    cases h' with
    | unversioned _ _ => rfl
    | versioned last' _ _ =>
      rw [last] at last'
      cases last'
  | versioned last _ _ =>
    cases h' with
    | unversioned last' _ =>
      rw [last] at last'
      cases last'
    | versioned last' _ _ =>
      rw [last] at last'
      exact Option.some.inj last'

/-- What a bump makes of a path within its base, no bump of the same base replaces. -/
theorem bumped_path_is_final {base path target : Text} {j k : Nat} {first second : VersionBump}
    (hfirst : make base j = .ok first) (hsecond : make base k = .ok second)
    (hpath : Path.StaysWithin (Text.trimSlashes base) path)
    (htarget : first.replacement? path = some target) : second.replacement? target = none := by
  obtain ⟨hj, hmade⟩ := make_eq_ok_iff.1 hfirst
  obtain ⟨-, hmade'⟩ := make_eq_ok_iff.1 hsecond
  rw [← hmade.base_eq] at hpath
  have hbase : second.base = first.base := by
    rw [hmade.base_eq, hmade'.base_eq]
  by_cases hwithin : Path.Within first.base target
  · obtain ⟨hcurrent, rest, rfl, hdeclares⟩ := hmade.within_base hj hpath htarget hwithin
    rw [hmade.current_eq hmade'] at hcurrent
    rw [← hbase, replacement?_below, if_pos ⟨hcurrent, hdeclares⟩]
  · rw [← hbase] at hwithin
    exact replacement?_eq_none hwithin

theorem bumped_path_is_final_dotted : ∃ first second,
    make "../p/".toList 1 = .ok first ∧ make "../p/".toList 2 = .ok second ∧
    Path.StaysWithin (Text.trimSlashes "../p/".toList) "../p/x//../y".toList ∧
    first.replacement? "../p/x//../y".toList = some "../p/v2/y".toList ∧
    second.replacement? "../p/v2/y".toList = none := by
  have hfirst : make "../p/".toList 1 = .ok ⟨"../p".toList, "../p/v2".toList, 0, 2⟩ := by rfl
  have hsecond : make "../p/".toList 2 = .ok ⟨"../p".toList, "../p/v3".toList, 0, 3⟩ := by rfl
  have hpath : Path.StaysWithin (Text.trimSlashes "../p/".toList) "../p/x//../y".toList :=
    .inr ⟨"x//../y".toList, by rfl, by decide⟩
  have htarget : (⟨"../p".toList, "../p/v2".toList, 0, 2⟩ : VersionBump).replacement?
      "../p/x//../y".toList = some "../p/v2/y".toList := by rfl
  exact ⟨_, _, hfirst, hsecond, hpath, htarget,
    bumped_path_is_final hfirst hsecond hpath htarget⟩

theorem Made.within_head {base path target : Text} {jump : Nat} (h : Made base jump b)
    (hpath : Path.StaysWithin b.base path) (htarget : b.replacement? path = some target) :
    Path.Within (Path.clean b.head) (Path.clean target) := by
  rcases hpath with rfl | ⟨rest, rfl, hstays⟩
  · rw [replacement?_base] at htarget
    obtain rfl := Option.some.inj htarget
    exact .inl rfl
  · rw [replacement?_below] at htarget
    split_ifs at htarget
    obtain rfl := Option.some.inj htarget
    obtain ⟨added, hadds⟩ := hstays.exists_adds
    rw [Path.clean_idem, hadds.clean_append_slash h.head_ne_nil, Path.clean_eq_written b.head,
      Path.within_written_iff (Path.normalStack_stack b.head) (hadds.normalStack b.head)
        h.stack_head_ne_nil]
    exact List.suffix_append added _

theorem Made.not_within_head {base rest target : Text} {jump : Nat} (h : Made base jump b)
    (htarget : b.replacement? (b.base ++ '/' :: rest) = some target)
    (hclimbs : ¬ Path.StaysBelow rest)
    (hnamed : Version.segment b.target ∉ Path.segments rest) :
    ¬ Path.Within (Path.clean b.head) (Path.clean target) := by
  rw [replacement?_below] at htarget
  split_ifs at htarget
  obtain rfl := Option.some.inj htarget
  obtain ⟨below, hstack⟩ := h.stack_head
  have hnormal := Path.normalStack_stack b.head
  have hslash : ∀ s ∈ Path.segments rest, '/' ∉ s :=
    fun _ hs => Path.slash_not_mem_of_mem_segments hs
  have hcount : Path.depthFrom 0 (Path.segments rest) = none := by
    simpa [Path.StaysBelow] using hclimbs
  rw [Path.clean_idem, Path.clean_append_slash h.head_ne_nil, Path.clean_eq_written b.head,
    Path.within_written_iff hnormal (hnormal.foldl_push hslash) h.stack_head_ne_nil, hstack]
  exact Path.not_suffix_of_depthFrom (Version.isName_segment b.target) _ [] hcount
    (by simp) hslash hnamed

theorem Made.within_head_iff {base rest target : Text} {jump : Nat} (h : Made base jump b)
    (htarget : b.replacement? (b.base ++ '/' :: rest) = some target) :
    Path.Within (Path.clean b.head) (Path.clean target) ↔
      ∀ start, (∀ s ∈ start, Path.IsName s) →
        Path.walk b.head start <:+ Path.walk (b.head ++ '/' :: rest) start := by
  rw [replacement?_below] at htarget
  split_ifs at htarget
  obtain rfl := Option.some.inj htarget
  obtain ⟨below, hstack⟩ := h.stack_head
  rw [Path.clean_idem]
  exact Path.within_clean_iff (Path.rooted_append h.head_ne_nil _).symm hstack
    (Version.isName_segment b.target)

/-- A path that stays within the base is moved to the head or below it. A remainder that climbs out
and does not name the new version leads out of the head. In any case, the path is moved to the head
or below it just if the remainder leads there from the head, wherever that is. -/
theorem bump_stays_in_version {base path head target : Text} {jump : Nat}
    (hmake : make base jump = .ok b) (hhead : b.replacement? (Text.trimSlashes base) = some head)
    (htarget : b.replacement? path = some target) :
    (Path.StaysWithin (Text.trimSlashes base) path →
      Path.Within (Path.clean head) (Path.clean target)) ∧
    (∀ rest, path = Text.trimSlashes base ++ '/' :: rest → ¬ Path.StaysBelow rest →
      Version.segment b.target ∉ Path.segments rest →
      ¬ Path.Within (Path.clean head) (Path.clean target)) ∧
    ∀ rest, path = Text.trimSlashes base ++ '/' :: rest →
      (Path.Within (Path.clean head) (Path.clean target) ↔
        ∀ start, (∀ s ∈ start, Path.IsName s) →
          Path.walk head start <:+ Path.walk (head ++ '/' :: rest) start) := by
  obtain ⟨-, hmade⟩ := make_eq_ok_iff.1 hmake
  rw [← hmade.base_eq] at hhead ⊢
  rw [replacement?_base] at hhead
  obtain rfl := Option.some.inj hhead
  refine ⟨fun hpath => hmade.within_head hpath htarget, ?_, ?_⟩
  · rintro rest rfl hclimbs hnamed
    exact hmade.not_within_head htarget hclimbs hnamed
  · rintro rest rfl
    exact hmade.within_head_iff htarget

theorem bump_stays_in_version_and_leaves : ∃ b, make "host/project".toList 1 = .ok b ∧
    b.replacement? "host/project".toList = some "host/project/v2".toList ∧
    b.replacement? "host/project/a/../b/".toList = some "host/project/v2/b".toList ∧
    Path.Within (Path.clean "host/project/v2".toList) (Path.clean "host/project/v2/b".toList) ∧
    b.replacement? "host/project/../../b".toList = some "host/b".toList ∧
    ¬ Path.Within (Path.clean "host/project/v2".toList) (Path.clean "host/b".toList) ∧
    b.replacement? "host/project/../v2/b".toList = some "host/project/v2/b".toList ∧
    ∀ start, (∀ s ∈ start, Path.IsName s) →
      Path.walk "host/project/v2".toList start <:+
        Path.walk "host/project/v2/../v2/b".toList start := by
  have hmake : make "host/project".toList 1 =
      .ok ⟨"host/project".toList, "host/project/v2".toList, 0, 2⟩ := by rfl
  have hbelow : (⟨"host/project".toList, "host/project/v2".toList, 0, 2⟩ :
      VersionBump).replacement? "host/project/a/../b/".toList =
        some "host/project/v2/b".toList := by rfl
  have hout : (⟨"host/project".toList, "host/project/v2".toList, 0, 2⟩ :
      VersionBump).replacement? "host/project/../../b".toList = some "host/b".toList := by rfl
  have hback : (⟨"host/project".toList, "host/project/v2".toList, 0, 2⟩ :
      VersionBump).replacement? "host/project/../v2/b".toList =
        some "host/project/v2/b".toList := by rfl
  obtain ⟨hstays, -⟩ := bump_stays_in_version hmake rfl hbelow
  obtain ⟨-, hleaves, -⟩ := bump_stays_in_version hmake rfl hout
  obtain ⟨-, -, hreturns⟩ := bump_stays_in_version hmake rfl hback
  exact ⟨_, hmake, by rfl, hbelow, hstays (.inr ⟨"a/../b/".toList, by rfl, by decide⟩), hout,
    hleaves "../../b".toList (by rfl) (by decide) (by decide), hback,
    (hreturns "../v2/b".toList (by rfl)).1 (by decide)⟩

/-- A path that climbs out of the base is not moved into the new version. -/
theorem climbing_path_leaves_version : ∃ b head target,
    make "host/project".toList 1 = .ok b ∧
    b.replacement? "host/project".toList = some head ∧
    b.replacement? "host/project/../other".toList = some target ∧
    ¬ Path.Within (Path.clean head) (Path.clean target) :=
  ⟨⟨"host/project".toList, "host/project/v2".toList, 0, 2⟩, "host/project/v2".toList,
    "host/project/other".toList, by rfl, by rfl, by rfl, by decide⟩

end Reroute.VersionBump
