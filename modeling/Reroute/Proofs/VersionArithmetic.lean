import Reroute.Proofs.VersionBumps

set_option autoImplicit false

/-!
# Version arithmetic

Preparing a version bump adds the jump to the version that the base ends in. As long as that version
fits into 32 bits, what comes out is what exact arithmetic asks for. A larger number at the end of
the base is not taken for a version: the bump starts from version 1 again, although the exact sum is
too large.
-/

namespace Reroute

namespace Version

/-- The last segment of the base is `v` and the numeral of `major`, however long it is. -/
def EndsIn (base : Text) (major : Nat) : Prop :=
  ∃ digits, (Path.segments (Text.trimSlashes base)).getLast? = some ('v' :: digits) ∧
    Numeral digits ∧ Nat.ofDigitChars 10 digits 0 = major

/-- A number that does not fit into 32 bits declares no version. -/
def Declares (base : Text) (major : Nat) : Prop :=
  EndsIn base major ∧ major ≤ maxMajor

theorem endsIn_iff {base : Text} {major : Nat} : EndsIn base major ↔
    suffixValue? (splitLast (Text.trimSlashes base)).2 = some major := by
  rw [EndsIn, getLast?_segments, suffixValue?_eq_some_iff]
  simp only [Option.some.injEq]

theorem EndsIn.unique {base : Text} {major other : Nat} (h : EndsIn base major)
    (h' : EndsIn base other) : major = other := by
  rw [endsIn_iff] at h h'
  exact Option.some.inj (h.symm.trans h')

theorem EndsIn.least {base : Text} {major : Nat} (h : EndsIn base major)
    (hlarge : maxMajor < major) : ∀ other, EndsIn base other → 2 ≤ other := by
  intro other hother
  rw [← h.unique hother]
  exact Nat.le_trans (by decide) hlarge

theorem EndsIn.not_declares {base : Text} {major : Nat} (h : EndsIn base major)
    (hlarge : maxMajor < major) : ∀ other, ¬ Declares base other := by
  rintro other ⟨hother, hfits⟩
  rw [← h.unique hother] at hfits
  omega

theorem declares_iff {base : Text} {major : Nat} : Declares base major ↔
    suffix? (splitLast (Text.trimSlashes base)).2 = some major := by
  rw [Declares, endsIn_iff, suffix?_eq_some_iff]

theorem suffix?_eq_none {base : Text} (h : ∀ major, ¬ Declares base major) :
    suffix? (splitLast (Text.trimSlashes base)).2 = none := by
  rw [Option.eq_none_iff_forall_ne_some]
  intro major hmajor
  exact h major (declares_iff.2 hmajor)

/-- Where a jump starts, 0 if no version is declared, and where it leads. Without a declared version
it leads on from version 1. -/
inductive Leads (declared : Nat → Prop) (jump : Nat) : Nat → Nat → Prop where
  | unversioned (h : ∀ major, ¬ declared major) : Leads declared jump 0 (1 + jump)
  | versioned {major : Nat} (h : declared major) : Leads declared jump major (major + jump)

section Leads

variable {declared : Nat → Prop} {jump current target : Nat}

theorem exists_leads (declared : Nat → Prop) (jump : Nat) :
    ∃ current target, Leads declared jump current target := by
  by_cases h : ∃ major, declared major
  · obtain ⟨major, hmajor⟩ := h
    exact ⟨_, _, .versioned hmajor⟩
  · exact ⟨_, _, .unversioned fun major hmajor => h ⟨major, hmajor⟩⟩

theorem Leads.unique (h : Leads declared jump current target)
    (hunique : ∀ major other, declared major → declared other → major = other)
    {current' target' : Nat} (h' : Leads declared jump current' target') :
    current = current' ∧ target = target' := by
  cases h with
  | unversioned hnone =>
    cases h' with
    | unversioned _ => exact ⟨rfl, rfl⟩
    | versioned hmajor => exact absurd hmajor (hnone _)
  | versioned hmajor =>
    cases h' with
    | unversioned hnone => exact absurd hmajor (hnone _)
    | versioned hother =>
      obtain rfl := hunique _ _ hmajor hother
      exact ⟨rfl, rfl⟩

theorem Leads.raises (h : Leads declared jump current target) (hjump : 0 < jump)
    (hleast : ∀ major, declared major → 2 ≤ major) : 2 ≤ target ∧ current < target := by
  cases h with
  | unversioned _ => omega
  | versioned hmajor =>
    have htwo := hleast _ hmajor
    omega

end Leads

end Version

namespace VersionBump

open Version

/-- What exact arithmetic asks of preparing a bump, with the failures in the order in which they
are found. -/
structure Exact (declared : Nat → Prop) (base : Text) (jump : Nat)
    (answer : Except VersionError VersionBump) : Prop where
  invalidJump : answer = .error (.invalidJump base) ↔ jump = 0
  invalidSuffix : ∀ major, answer = .error (.invalidSuffix (Text.trimSlashes base) major) ↔
    0 < jump ∧ declared major ∧ major < 2
  overflow : answer = .error (.overflow (Text.trimSlashes base) jump) ↔
    0 < jump ∧ (∀ major, declared major → 2 ≤ major) ∧
      ∃ current target, Leads declared jump current target ∧ maxMajor < target
  bumped : ∀ current target,
    (∃ b, answer = .ok b ∧ b.current = current ∧ b.target = target) ↔
      0 < jump ∧ (∀ major, declared major → 2 ≤ major) ∧
        Leads declared jump current target ∧ target ≤ maxMajor
  raised : ∀ b, answer = .ok b → 2 ≤ b.target ∧ b.current < b.target

section Outcomes

variable {declared : Nat → Prop} {base : Text} {jump current target : Nat}

theorem not_low (hleast : ∀ major, declared major → 2 ≤ major) (major : Nat) :
    ¬ (0 < jump ∧ declared major ∧ major < 2) := by
  rintro ⟨-, hmajor, hlow⟩
  have htwo := hleast major hmajor
  omega

theorem Exact.of_zero (declared : Nat → Prop) (base : Text) :
    Exact declared base 0 (.error (.invalidJump base)) := by
  refine ⟨?_, ?_, ?_, ?_, ?_⟩ <;> simp

theorem Exact.of_low {major : Nat} (hjump : 0 < jump) (hmajor : declared major) (hlow : major < 2)
    (hunique : ∀ major other, declared major → declared other → major = other) :
    Exact declared base jump (.error (.invalidSuffix (Text.trimSlashes base) major)) := by
  have hnot : ¬ ∀ major, declared major → 2 ≤ major := by
    intro hleast
    have htwo := hleast major hmajor
    omega
  refine ⟨?_, ?_, ?_, ?_, ?_⟩
  · simp [Nat.ne_of_gt hjump]
  · intro other
    constructor
    · intro h
      cases h
      exact ⟨hjump, hmajor, hlow⟩
    · rintro ⟨-, hother, -⟩
      rw [hunique major other hmajor hother]
  · simp [hnot]
  · simp [hnot]
  · simp

theorem Exact.of_large (hjump : 0 < jump) (hleast : ∀ major, declared major → 2 ≤ major)
    (hunique : ∀ major other, declared major → declared other → major = other)
    (hleads : Leads declared jump current target) (hlarge : maxMajor < target) :
    Exact declared base jump (.error (.overflow (Text.trimSlashes base) jump)) := by
  refine ⟨?_, ?_, ?_, ?_, ?_⟩
  · simp [Nat.ne_of_gt hjump]
  · intro major
    apply iff_of_false _ (not_low hleast major)
    intro h
    cases h
  · exact iff_of_true rfl ⟨hjump, hleast, current, target, hleads, hlarge⟩
  · intro current' target'
    constructor
    · rintro ⟨b, h, -⟩
      cases h
    · rintro ⟨-, -, hleads', hbound⟩
      obtain ⟨-, rfl⟩ := hleads.unique hunique hleads'
      omega
  · simp

theorem Exact.of_bound (hjump : 0 < jump) (hleast : ∀ major, declared major → 2 ≤ major)
    (hunique : ∀ major other, declared major → declared other → major = other)
    (hleads : Leads declared jump current target) (hbound : target ≤ maxMajor) (head : Text) :
    Exact declared base jump (.ok ⟨Text.trimSlashes base, head, current, target⟩) := by
  refine ⟨?_, ?_, ?_, ?_, ?_⟩
  · simp [Nat.ne_of_gt hjump]
  · intro major
    apply iff_of_false _ (not_low hleast major)
    intro h
    cases h
  · constructor
    · intro h
      cases h
    · rintro ⟨-, -, current', target', hleads', hlarge⟩
      obtain ⟨-, rfl⟩ := hleads.unique hunique hleads'
      omega
  · intro current' target'
    constructor
    · rintro ⟨b, h, rfl, rfl⟩
      cases h
      exact ⟨hjump, hleast, hleads, hbound⟩
    · rintro ⟨-, -, hleads', -⟩
      obtain ⟨rfl, rfl⟩ := hleads.unique hunique hleads'
      exact ⟨_, rfl, rfl, rfl⟩
  · intro b h
    cases h
    exact hleads.raises hjump hleast

end Outcomes

section Make

variable {base : Text} {jump current target : Nat}

theorem make_of_low {major : Nat} (hjump : 0 < jump) (hmajor : Declares base major)
    (hlow : major < 2) :
    make base jump = .error (.invalidSuffix (Text.trimSlashes base) major) := by
  simp only [make, Nat.ne_of_gt hjump, declares_iff.1 hmajor, hlow, if_true, if_false]

theorem make_of_leads (hjump : 0 < jump) (hleast : ∀ major, Declares base major → 2 ≤ major)
    (hleads : Leads (Declares base) jump current target) : ∃ dir, make base jump =
      if target ≤ maxMajor then .ok ⟨Text.trimSlashes base, headOf dir target, current, target⟩
      else .error (.overflow (Text.trimSlashes base) jump) := by
  cases hleads with
  | unversioned hnone =>
    refine ⟨Text.trimSlashes base, ?_⟩
    simp only [make, Nat.ne_of_gt hjump, suffix?_eq_none hnone, if_false]
    exact ofParts_eq _ _ rfl
  | versioned hmajor =>
    have htwo := hleast _ hmajor
    refine ⟨Text.trimSlashes (splitLast (Text.trimSlashes base)).1, ?_⟩
    simp only [make, Nat.ne_of_gt hjump, declares_iff.1 hmajor, Nat.not_lt.2 htwo, if_false]
    exact ofParts_eq _ _ (by rw [if_neg (by omega)])

theorem exact_make (base : Text) (jump : Nat) :
    Exact (Declares base) base jump (make base jump) := by
  have hunique : ∀ major other, Declares base major → Declares base other → major = other :=
    fun _ _ h h' => h.1.unique h'.1
  by_cases hjump : jump = 0
  · subst jump
    exact .of_zero _ base
  have hpos := Nat.pos_of_ne_zero hjump
  by_cases hleast : ∀ major, Declares base major → 2 ≤ major
  · obtain ⟨current, target, hleads⟩ := exists_leads (Declares base) jump
    obtain ⟨dir, hmake⟩ := make_of_leads hpos hleast hleads
    rw [hmake]
    split_ifs with hbound
    · exact .of_bound hpos hleast hunique hleads hbound _
    · exact .of_large hpos hleast hunique hleads (Nat.lt_of_not_le hbound)
  · push Not at hleast
    obtain ⟨major, hmajor, hlow⟩ := hleast
    rw [make_of_low hpos hmajor hlow]
    exact .of_low hpos hmajor hlow hunique

theorem exact_of_fits (hfits : ∀ major, EndsIn base major → major ≤ maxMajor) :
    Exact (EndsIn base) base jump (make base jump) := by
  have hsame : Declares base = EndsIn base := by
    funext major
    apply propext
    exact ⟨And.left, fun hmajor => ⟨hmajor, hfits major hmajor⟩⟩
  rw [← hsame]
  exact exact_make base jump

theorem make_eq_overflow_iff {major : Nat} (hmajor : EndsIn base major)
    (hlarge : maxMajor < major) :
    make base jump = .error (.overflow (Text.trimSlashes base) jump) ↔ maxMajor ≤ jump := by
  have hnone := hmajor.not_declares hlarge
  rw [(exact_make base jump).overflow]
  constructor
  · rintro ⟨-, -, current, target, hleads, htarget⟩
    cases hleads with
    | unversioned _ => omega
    | versioned hother => exact absurd hother (hnone _)
  · intro hjump
    have hpos : 0 < jump := Nat.lt_of_lt_of_le (by decide) hjump
    exact ⟨hpos, fun other hother => absurd hother (hnone other), 0, 1 + jump,
      .unversioned hnone, by omega⟩

/-- The bump is the one of exact arithmetic on the number that the base ends in, but for one case:
the number does not fit into 32 bits, and neither the jump is zero nor it alone is too large. -/
theorem bump_counts_exactly (base : Text) (jump : Nat) :
    Exact (Declares base) base jump (make base jump) ∧
      (Exact (EndsIn base) base jump (make base jump) ↔
        ∀ major, EndsIn base major → maxMajor < major → jump = 0 ∨ maxMajor ≤ jump) := by
  refine ⟨exact_make base jump, ?_⟩
  constructor
  · intro hexact major hmajor hlarge
    by_cases hjump : jump = 0
    · exact .inl hjump
    · have hoverflow := hexact.overflow.2 ⟨Nat.pos_of_ne_zero hjump, hmajor.least hlarge, major,
        major + jump, .versioned hmajor, by omega⟩
      exact .inr ((make_eq_overflow_iff hmajor hlarge).1 hoverflow)
  · intro hcases
    by_cases hfits : ∀ major, EndsIn base major → major ≤ maxMajor
    · exact exact_of_fits hfits
    · push Not at hfits
      obtain ⟨major, hmajor, hlarge⟩ := hfits
      rcases hcases major hmajor hlarge with rfl | hjump
      · exact .of_zero _ base
      · -- The jump alone is too large, wherever it starts.
        have hpos : 0 < jump := Nat.lt_of_lt_of_le (by decide) hjump
        rw [(make_eq_overflow_iff hmajor hlarge).2 hjump]
        exact .of_large hpos (hmajor.least hlarge) (fun _ _ h h' => h.unique h')
          (.versioned hmajor) (by omega)

/-- A number that does not fit is left in the path, and the bump starts from version 1. -/
theorem oversized_version_starts_over :
    EndsIn "host/project/v4294967296".toList 4294967296 ∧
    make "host/project/v4294967296".toList 1 = .ok ⟨"host/project/v4294967296".toList,
      "host/project/v4294967296/v2".toList, 0, 2⟩ ∧
    ¬ Exact (EndsIn "host/project/v4294967296".toList) "host/project/v4294967296".toList 1
      (make "host/project/v4294967296".toList 1) := by
  have hends : EndsIn "host/project/v4294967296".toList 4294967296 :=
    ⟨Text.decimal 4294967296, by rfl, Text.numeral_decimal _, Nat.ofDigitChars_ten_toDigits⟩
  have hmake : make "host/project/v4294967296".toList 1 = .ok ⟨"host/project/v4294967296".toList,
      "host/project/v4294967296/v2".toList, 0, 2⟩ := by rfl
  refine ⟨hends, hmake, fun hexact => ?_⟩
  have hoverflow := hexact.overflow.2 ⟨by decide, hends.least (by decide), _, _,
    .versioned hends, by decide⟩
  rw [hmake] at hoverflow
  cases hoverflow

end Make

end VersionBump

end Reroute
