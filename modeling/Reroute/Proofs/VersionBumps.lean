import Reroute.Proofs.CleanPaths
import Reroute.Proofs.Numerals
import Reroute.Renaming.Version

set_option autoImplicit false

namespace Reroute

namespace Version

theorem splitLast_spec (p : Text) : '/' ∉ (splitLast p).2 ∧
    (p = (splitLast p).2 ∧ (splitLast p).1 = [] ∨
      p = (splitLast p).1 ++ '/' :: (splitLast p).2) := by
  have hsplit := congrArg List.reverse
    (List.takeWhile_append_dropWhile (p := (· != '/')) (l := p.reverse))
  rw [List.reverse_append, List.reverse_reverse] at hsplit
  have htail : (splitLast p).2 = (p.reverse.takeWhile (· != '/')).reverse := rfl
  have hbefore : (splitLast p).1 = (p.reverse.dropWhile (· != '/')).reverse.dropLast := by
    have hlen := congrArg List.length hsplit
    rw [List.length_append] at hlen
    have htake := congrArg
      (List.take (p.length - (p.reverse.takeWhile (· != '/')).reverse.length)) hsplit
    rw [List.take_left' (Nat.eq_sub_of_add_eq hlen)] at htake
    exact congrArg List.dropLast htake.symm
  refine ⟨fun hmem => ?_, ?_⟩
  · rw [htail, List.mem_reverse] at hmem
    simpa using List.mem_takeWhile_imp hmem
  · rw [htail, hbefore]
    cases hdrop : p.reverse.dropWhile (· != '/') with
    | nil =>
      rw [hdrop] at hsplit
      exact .inl ⟨hsplit.symm, rfl⟩
    | cons c before =>
      have hc : c = '/' := by
        have hhead := List.head?_dropWhile_not (· != '/') p.reverse
        simpa [hdrop] using hhead
      subst c
      rw [hdrop] at hsplit
      refine .inr ?_
      simpa using hsplit.symm

theorem segments_splitLast (p : Text) : ∃ front, Path.segments p = front ++ [(splitLast p).2] ∧
    (front = [] ∧ (splitLast p).1 = [] ∨ front = Path.segments (splitLast p).1) := by
  obtain ⟨hslash, ⟨hp, hbefore⟩ | hp⟩ := splitLast_spec p
  · refine ⟨[], ?_, .inl ⟨rfl, hbefore⟩⟩
    conv_lhs => rw [hp]
    exact Text.split_eq_singleton hslash
  · refine ⟨_, ?_, .inr rfl⟩
    conv_lhs => rw [hp]
    rw [Path.segments_append_slash]
    exact congrArg _ (Text.split_eq_singleton hslash)

theorem getLast?_segments (p : Text) : (Path.segments p).getLast? = some (splitLast p).2 := by
  obtain ⟨front, hsegs, -⟩ := segments_splitLast p
  rw [hsegs, List.getLast?_concat]

theorem suffix?_nil : suffix? [] = none := rfl

theorem suffix?_up : suffix? Path.up = none := rfl

theorem suffix?_of_isBlank {s : Text} (h : Path.isBlank s = true) : suffix? s = none := by
  rw [Path.isBlank, Bool.or_eq_true] at h
  rcases h with h | h
  · rw [eq_of_beq h]
    rfl
  · rw [eq_of_beq h]
    rfl

theorem suffixValue?_eq_some_iff {s : Text} {major : Nat} : suffixValue? s = some major ↔
    ∃ digits, s = 'v' :: digits ∧ Numeral digits ∧ Nat.ofDigitChars 10 digits 0 = major := by
  constructor
  · intro h
    unfold suffixValue? at h
    split at h
    · rename_i digits
      split_ifs at h with hnumeral
      rw [Bool.or_eq_true, not_or, List.isEmpty_iff, Bool.not_eq_true', Bool.not_eq_false,
        List.all_eq_true] at hnumeral
      refine ⟨digits, rfl, hnumeral, ?_⟩
      rw [← Text.decimalValue_eq_ofDigitChars]
      exact Option.some.inj h
    · cases h
  · rintro ⟨digits, rfl, ⟨hne, hdigits⟩, rfl⟩
    have hempty : digits.isEmpty = false := by simpa using hne
    have hall : digits.all Char.isDigit = true := List.all_eq_true.2 hdigits
    rw [← Text.decimalValue_eq_ofDigitChars]
    simp only [suffixValue?, hempty, hall]
    rfl

theorem suffix?_eq_some_iff {s : Text} {major : Nat} :
    suffix? s = some major ↔ suffixValue? s = some major ∧ major ≤ maxMajor := by
  rw [suffix?, Option.filter_eq_some_iff, decide_eq_true_eq]

theorem suffix?_segment {major : Nat} (h : major ≤ maxMajor) :
    suffix? (segment major) = some major := by
  rw [suffix?_eq_some_iff, suffixValue?_eq_some_iff]
  exact ⟨⟨_, rfl, Text.numeral_decimal major, Nat.ofDigitChars_ten_toDigits⟩, h⟩

theorem slash_not_mem_segment (major : Nat) : '/' ∉ segment major := by
  obtain ⟨-, hdigits⟩ := Text.numeral_decimal major
  intro hmem
  rcases List.mem_cons.1 hmem with h | h
  · exact absurd h (by decide)
  · exact absurd (hdigits _ h) (by decide)

end Version

namespace VersionBump

theorem segments_headOf (dir : Text) (major : Nat) : Path.segments (headOf dir major) =
    (if dir = [] then [] else Path.segments dir) ++ [Version.segment major] := by
  have hsegment : Path.segments (Version.segment major) = [Version.segment major] :=
    Text.split_eq_singleton (Version.slash_not_mem_segment major)
  rw [headOf]
  by_cases hdir : dir = []
  · subst hdir
    exact hsegment
  · rw [if_neg (by simpa using hdir), if_neg hdir, Path.segments_append_slash, hsegment]

/-- The bumps that are prepared from a base and a jump: a base that declares no version is at
version 1 and keeps all its segments, a base that declares one loses that segment. -/
inductive Made (base : Text) (jump : Nat) : VersionBump → Prop where
  | unversioned (last : Version.suffix? (Version.splitLast (Text.trimSlashes base)).2 = none)
      (bound : 1 + jump ≤ maxMajor) :
      Made base jump ⟨Text.trimSlashes base, headOf (Text.trimSlashes base) (1 + jump), 0, 1 + jump⟩
  | versioned {major : Nat}
      (last : Version.suffix? (Version.splitLast (Text.trimSlashes base)).2 = some major)
      (least : 2 ≤ major) (bound : major + jump ≤ maxMajor) :
      Made base jump ⟨Text.trimSlashes base,
        headOf (Text.trimSlashes (Version.splitLast (Text.trimSlashes base)).1) (major + jump),
        major, major + jump⟩

theorem ofParts_eq {jump current target : Nat} (trimmed dir : Text)
    (hnew : (if current = 0 then 1 else current) + jump = target) :
    make.ofParts jump trimmed dir current =
      if target ≤ maxMajor then .ok ⟨trimmed, headOf dir target, current, target⟩
      else .error (.overflow trimmed jump) := by
  rw [make.ofParts, newMajor?, hnew]
  split_ifs <;> rfl

theorem ofParts_eq_ok_iff {jump : Nat} {trimmed dir : Text} {current : Nat} {b : VersionBump} :
    make.ofParts jump trimmed dir current = .ok b ↔
      (if current = 0 then 1 else current) + jump ≤ maxMajor ∧
        b = ⟨trimmed, headOf dir ((if current = 0 then 1 else current) + jump), current,
          (if current = 0 then 1 else current) + jump⟩ := by
  rw [ofParts_eq trimmed dir rfl]
  by_cases hbound : (if current = 0 then 1 else current) + jump ≤ maxMajor
  · simp only [hbound, if_true, true_and]
    exact ⟨fun h => (Except.ok.inj h).symm, fun h => h ▸ rfl⟩
  · simp only [hbound, if_false, false_and, iff_false]
    exact fun h => by cases h

theorem make_eq_ok_iff {base : Text} {jump : Nat} {b : VersionBump} :
    make base jump = .ok b ↔ 0 < jump ∧ Made base jump b := by
  constructor
  · intro h
    by_cases hjump : jump = 0
    · rw [make, if_pos hjump] at h
      cases h
    refine ⟨Nat.pos_of_ne_zero hjump, ?_⟩
    simp only [make, hjump, if_false] at h
    cases hlast : Version.suffix? (Version.splitLast (Text.trimSlashes base)).2 with
    | none =>
      simp only [hlast] at h
      obtain ⟨hbound, rfl⟩ := ofParts_eq_ok_iff.1 h
      exact .unversioned hlast hbound
    | some major =>
      simp only [hlast] at h
      by_cases hleast : major < 2
      · rw [if_pos hleast] at h
        cases h
      · rw [if_neg hleast] at h
        obtain ⟨hbound, rfl⟩ := ofParts_eq_ok_iff.1 h
        rw [if_neg (show major ≠ 0 by omega)] at hbound ⊢
        exact .versioned hlast (Nat.not_lt.1 hleast) hbound
  · rintro ⟨hjump, hmade⟩
    simp only [make, Nat.ne_of_gt hjump, if_false]
    cases hmade with
    | unversioned hlast hbound =>
      simp only [hlast]
      exact ofParts_eq_ok_iff.2 ⟨hbound, rfl⟩
    | @versioned major hlast hleast hbound =>
      have hmajor : major ≠ 0 := by omega
      simp only [hlast, Nat.not_lt.2 hleast, if_false]
      exact ofParts_eq_ok_iff.2 (by rw [if_neg hmajor]; exact ⟨hbound, rfl⟩)

theorem declaresMajor_eq_false_iff {rest : Text} : declaresMajor rest = false ↔
    ∀ s ∈ (Path.segments rest).head?, Version.suffix? s = none := by
  rw [declaresMajor]
  cases (Path.segments rest).head? with
  | none => simp
  | some first => simp

/-- A bump answers on its base and, unless another version begins there, on all below it. -/
theorem replacement?_eq_some_iff {b : VersionBump} {path target : Text} :
    b.replacement? path = some target ↔
      (path = b.base ∧ target = b.head) ∨
      ∃ rest, path = b.base ++ '/' :: rest ∧ ¬ (b.current = 0 ∧ declaresMajor rest = true) ∧
        target = Path.clean (b.head ++ '/' :: rest) := by
  have hbelow : ∀ rest, Text.dropPrefix? (b.base ++ ['/']) path = some rest ↔
      path = b.base ++ '/' :: rest := fun rest => by
    rw [Text.dropPrefix?_eq_some_iff, List.append_assoc, List.singleton_append]
  rw [replacement?]
  cases hdrop : Text.dropPrefix? (b.base ++ ['/']) path with
  | none =>
    have hnot : ∀ rest, path ≠ b.base ++ '/' :: rest := fun rest h => by
      rw [(hbelow rest).2 h] at hdrop
      cases hdrop
    constructor
    · intro h
      split_ifs at h with hbase
      exact .inl ⟨hbase, (Option.some.inj h).symm⟩
    · rintro (⟨hbase, rfl⟩ | ⟨rest, hpath, -⟩)
      · exact if_pos hbase
      · exact absurd hpath (hnot rest)
  | some rest =>
    have hpath := (hbelow rest).1 hdrop
    constructor
    · intro h
      simp only at h
      split_ifs at h with hother
      exact .inr ⟨rest, hpath, hother, (Option.some.inj h).symm⟩
    · rintro (⟨hbase, -⟩ | ⟨rest', hpath', hother, rfl⟩)
      · rw [hbase] at hpath
        simp at hpath
      · obtain rfl : rest = rest' := by simpa [hpath] using hpath'
        exact if_neg hother

end VersionBump

end Reroute
