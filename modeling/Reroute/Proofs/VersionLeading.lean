import Reroute.Proofs.LeadingDirectories
import Reroute.Proofs.VersionHeads

set_option autoImplicit false

namespace Reroute

namespace VersionBump

/-- A path below a base that declares no version, with a version right behind the base. -/
def InOtherVersion (b : VersionBump) (path : Text) : Prop :=
  b.current = 0 ∧ ∃ rest first, path = b.base ++ '/' :: rest ∧
    (Path.segments rest).head? = some first ∧ (Version.suffix? first).isSome = true

theorem declaresMajor_iff {rest : Text} : declaresMajor rest = true ↔
    ∃ first, (Path.segments rest).head? = some first ∧
      (Version.suffix? first).isSome = true := by
  rw [declaresMajor]
  cases (Path.segments rest).head? with
  | none => simp
  | some first => simp

theorem inOtherVersion_below_iff {b : VersionBump} {rest : Text} :
    InOtherVersion b (b.base ++ '/' :: rest) ↔ b.current = 0 ∧ declaresMajor rest = true := by
  rw [InOtherVersion, declaresMajor_iff]
  constructor
  · rintro ⟨hcurrent, rest', first, heq, hfirst, hsuffix⟩
    obtain rfl : rest = rest' := by simpa using heq
    exact ⟨hcurrent, first, hfirst, hsuffix⟩
  · rintro ⟨hcurrent, first, hfirst, hsuffix⟩
    exact ⟨hcurrent, rest, first, rfl, hfirst, hsuffix⟩

theorem replacement?_of_inOtherVersion {b : VersionBump} {path : Text}
    (h : InOtherVersion b path) : b.replacement? path = none := by
  obtain ⟨-, rest, -, rfl, -⟩ := id h
  rw [replacement?_below, if_pos (inOtherVersion_below_iff.1 h)]

theorem isName_of_clean_append {p rest : Text} (hp : p ≠ [])
    (hlast : (Path.segments p).getLast? ≠ some Path.up)
    (h : Path.clean (p ++ '/' :: rest) = p ++ '/' :: rest) :
    ∀ s ∈ Path.segments rest, Path.IsName s := by
  obtain ⟨hstack, hclean⟩ := Path.clean_of_clean_append_slash hp h
  obtain ⟨-, hall⟩ := Path.stack_append_slash_of_clean hp h
  have hnormal := Path.normalStack_stack (p ++ '/' :: rest)
  obtain ⟨top, below, htop⟩ := List.exists_cons_of_ne_nil hstack
  have htopNe : top ≠ Path.up := by
    rintro rfl
    rw [Path.getLast?_segments_of_clean hclean hstack, htop] at hlast
    exact hlast rfl
  rw [hall, htop] at hnormal
  intro s hs
  exact hnormal.isName_of_mem htopNe s (List.mem_reverse.2 hs)

theorem Made.clean_head_append {base rest : Text} {jump : Nat} {b : VersionBump}
    (h : Made base jump b) (hbase : b.base ≠ [])
    (hlast : (Path.segments b.base).getLast? ≠ some Path.up)
    (hpath : Path.clean (b.base ++ '/' :: rest) = b.base ++ '/' :: rest) :
    Path.clean (b.head ++ '/' :: rest) = b.head ++ '/' :: rest := by
  obtain ⟨hstack, hclean⟩ := Path.clean_of_clean_append_slash hbase hpath
  have hnames := isName_of_clean_append hbase hlast hpath
  have hdot : b.base ≠ ['.'] := by
    intro hdot
    rw [hdot] at hstack
    exact hstack rfl
  have hsegs : (Path.segments rest).reverse ≠ [] := by
    simpa using Path.segments_ne_nil rest
  rw [(Path.Adds.of_names rest hnames).clean_append_slash_join hsegs h.head_ne_nil
    h.stack_head_ne_nil, h.clean_head hclean hdot, List.reverse_reverse]
  exact congrArg (b.head ++ '/' :: ·) (Path.join_segments rest)

/-- On paths in normal form, a version bump leaves the paths in another version alone and replaces
the beginning of all others. -/
theorem normal_paths_follow_leading {base : Text} {jump : Nat} {b : VersionBump}
    (hmake : make base jump = .ok b)
    (hclean : Path.clean (Text.trimSlashes base) = Text.trimSlashes base)
    (hlast : (Path.segments (Text.trimSlashes base)).getLast? ≠ some Path.up) :
    ∃ head, b.replacement? (Text.trimSlashes base) = some head ∧
      ∀ path, Path.clean path = path →
        (InOtherVersion b path → b.replacement? path = none) ∧
        (¬ InOtherVersion b path → b.replacement? path =
          (Leading.ofDirectory (Text.trimSlashes base) head).replacement? path) := by
  obtain ⟨-, hmade⟩ := make_eq_ok_iff.1 hmake
  rw [← hmade.base_eq] at hclean hlast ⊢
  have hbase : b.base ≠ [] := by
    intro hempty
    rw [hempty] at hclean
    exact absurd hclean (by decide)
  refine ⟨b.head, replacement?_base b, fun path hpath =>
    ⟨replacement?_of_inOtherVersion, fun hother => ?_⟩⟩
  by_cases hbelow : ∃ rest, path = b.base ++ '/' :: rest
  · obtain ⟨rest, rfl⟩ := hbelow
    rw [inOtherVersion_below_iff] at hother
    rw [replacement?_below, if_neg hother, hmade.clean_head_append hbase hlast hpath,
      Leading.ofDirectory_below]
  · rw [not_exists] at hbelow
    obtain ⟨dir, hdir⟩ := hmade.head_eq
    rw [Leading.ofDirectory_of_not_below hbelow, hmade.trimSlashes_base, hdir,
      trimSlashes_headOf, ← hdir]
    split_ifs with hpathBase
    · rw [hpathBase]
      exact replacement?_base b
    · exact replacement?_eq_none fun hwithin => hwithin.elim hpathBase fun ⟨rest, hrest⟩ =>
        hbelow rest hrest

theorem normal_paths_follow_leading_up : ∃ b head,
    make "../p/v9/".toList 4 = .ok b ∧ b.replacement? "../p/v9".toList = some head ∧
    b.replacement? "../p/v9/v2/x".toList =
      (Leading.ofDirectory "../p/v9".toList head).replacement? "../p/v9/v2/x".toList := by
  have hmake : make "../p/v9/".toList 4 =
      .ok ⟨"../p/v9".toList, "../p/v13".toList, 9, 13⟩ := by rfl
  obtain ⟨head, hhead, hpaths⟩ := normal_paths_follow_leading hmake (by rfl) (by decide)
  obtain ⟨-, hreplaced⟩ := hpaths "../p/v9/v2/x".toList (by rfl)
  exact ⟨_, head, hmake, hhead, hreplaced fun hother => absurd hother.1 (by decide)⟩

end VersionBump

end Reroute
