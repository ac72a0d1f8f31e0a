import Reroute.Command.Arguments
import Reroute.Proofs.FirstFailures

set_option autoImplicit false

namespace Reroute.Command.Arguments

def IsPlain (arg : Text) : Prop :=
  arg = ['-'] ∨ arg.head? ≠ some '-'

/-- The rule texts that an option of the top level holds, and what it expects in the next
argument. -/
inductive Gives : Text → List Text → Option ValueOption → Prop where
  | flag {name : String} (h : name ∈ ["--init", "--force", "--verbose"]) : Gives name.toList [] none
  | verbose (n : Nat) : Gives ('-' :: List.replicate (n + 1) 'v') [] none
  | colorValue (value : Text) : Gives ("--color=".toList ++ value) [] none
  | ruleValue (value : Text) : Gives ("--rule=".toList ++ value) [value] none
  | letterValue (n : Nat) {value : Text} (h : value ≠ []) (hequals : value.head? ≠ some '=') :
      Gives ('-' :: (List.replicate n 'v' ++ 'r' :: value)) [value] none
  | letterEqualsValue (n : Nat) (value : Text) :
      Gives ('-' :: (List.replicate n 'v' ++ 'r' :: '=' :: value)) [value] none
  | color : Gives "--color".toList [] (some .color)
  | rule : Gives "--rule".toList [] (some .rule)
  | letter (n : Nat) : Gives ('-' :: (List.replicate n 'v' ++ ['r'])) [] (some .rule)

/-- The rule texts and the paths among some arguments: behind two hyphens all are paths, in front of
them those that are neither options nor their values. -/
inductive Assigns : List Text → List Text → List Text → Prop where
  | done : Assigns [] [] []
  | separator (paths : List Text) : Assigns ("--".toList :: paths) [] paths
  | path {arg : Text} {args rules paths : List Text} (h : IsPlain arg)
      (rest : Assigns args rules paths) : Assigns (arg :: args) rules (arg :: paths)
  | option {arg : Text} {given args rules paths : List Text} (h : Gives arg given none)
      (rest : Assigns args rules paths) : Assigns (arg :: args) (given ++ rules) paths
  | rule {arg value : Text} {args rules paths : List Text} (h : Gives arg [] (some .rule))
      (hvalue : IsPlain value) (rest : Assigns args rules paths) :
      Assigns (arg :: value :: args) (value :: rules) paths
  | color {arg value : Text} {args rules paths : List Text} (h : Gives arg [] (some .color))
      (hvalue : IsPlain value) (rest : Assigns args rules paths) :
      Assigns (arg :: value :: args) rules paths

theorem isPlain_of_formOf {arg : Text} (h : formOf arg = .plain) : IsPlain arg := by
  unfold formOf at h
  split at h
  · cases h
  · cases h
  · exact .inl rfl
  · cases h
  · next hsingle hhyphen =>
    refine .inr fun hhead => ?_
    obtain ⟨letters, rfl⟩ := List.head?_eq_some_iff.1 hhead
    exact hhyphen letters rfl

theorem eq_of_formOf_separator {arg : Text} (h : formOf arg = .separator) : arg = "--".toList := by
  unfold formOf at h
  split at h <;> cases h
  rfl

theorem eq_of_formOf_long {arg t : Text} (h : formOf arg = .long t) : arg = '-' :: '-' :: t := by
  unfold formOf at h
  split at h <;> cases h
  rfl

theorem eq_of_formOf_short {arg letters : Text} (h : formOf arg = .short letters) :
    arg = '-' :: letters ∧ letters ≠ [] := by
  unfold formOf at h
  split at h <;> cases h
  next hsingle => exact ⟨rfl, fun hnil => hsingle (hnil ▸ rfl)⟩

namespace Given

variable {g g' g'' : Given}

structure Keeps (g g' : Given) : Prop where
  starter : g'.starter = g.starter
  force : g'.force = g.force
  operands : g'.operands = g.operands

structure Grows (args : List Text) (g g' : Given) : Prop where
  starter : g'.starter = true → g.starter = true ∨ "--init".toList ∈ args
  force : g'.force = true → g.force = true ∨ "--force".toList ∈ args

theorem Keeps.refl (g : Given) : Keeps g g :=
  ⟨rfl, rfl, rfl⟩

theorem Keeps.trans (h : Keeps g g') (h' : Keeps g' g'') : Keeps g g'' :=
  ⟨h'.starter.trans h.starter, h'.force.trans h.force, h'.operands.trans h.operands⟩

theorem Keeps.grows (h : Keeps g g') (args : List Text) : Grows args g g' where
  starter := fun hg => .inl (h.starter ▸ hg)
  force := fun hg => .inl (h.force ▸ hg)

theorem Grows.cons {arg : Text} {rest : List Text} (h : Grows [arg] g g')
    (h' : Grows rest g' g'') : Grows (arg :: rest) g g'' where
  starter := by
    intro hg
    rcases h'.starter hg with hg | hmem
    · exact (h.starter hg).imp_right fun hmem => List.mem_append_left rest hmem
    · exact .inr (List.mem_cons_of_mem arg hmem)
  force := by
    intro hg
    rcases h'.force hg with hg | hmem
    · exact (h.force hg).imp_right fun hmem => List.mem_append_left rest hmem
    · exact .inr (List.mem_cons_of_mem arg hmem)

theorem keeps_of_takeValue {option : ValueOption} {value : Text}
    (h : g.takeValue option value = .ok g') : Keeps g g' := by
  cases option with
  | rule =>
    obtain rfl := Except.ok.inj h
    exact ⟨rfl, rfl, rfl⟩
  | color =>
    rw [takeValue] at h
    split at h
    · obtain rfl := Except.ok.inj h
      exact ⟨rfl, rfl, rfl⟩
    · cases h

theorem rules_of_takeRule {value : Text} (h : g.takeValue .rule value = .ok g') :
    g'.rules = g.rules ++ [value] := by
  obtain rfl := Except.ok.inj h
  rfl

theorem rules_of_takeColor {value : Text} (h : g.takeValue .color value = .ok g') :
    g'.rules = g.rules := by
  rw [takeValue] at h
  split at h
  · obtain rfl := Except.ok.inj h
    rfl
  · cases h

theorem takeSwitch_cases {s : Switch} (h : g.takeSwitch s = .ok g') :
    g'.rules = g.rules ∧ g'.operands = g.operands ∧
      (g'.starter = true → g.starter = true ∨ s = .starter) ∧
      (g'.force = true → g.force = true ∨ s = .force) := by
  cases s with
  | starter =>
    rw [takeSwitch] at h
    split at h
    · cases h
    · obtain rfl := Except.ok.inj h
      exact ⟨rfl, rfl, fun _ => .inr rfl, .inl⟩
  | force =>
    rw [takeSwitch] at h
    split at h
    · cases h
    · obtain rfl := Except.ok.inj h
      exact ⟨rfl, rfl, .inl, fun _ => .inr rfl⟩
  | verbose =>
    obtain rfl := Except.ok.inj h
    exact ⟨rfl, rfl, .inl, .inl⟩
  | version => cases h
  | help => cases h

theorem shortOption?_cases {level : Level} {letter : Char} {name : OptionName}
    (h : shortOption? level letter = some name) :
    letter = 'v' ∧ name = .switch .verbose ∨ letter = 'r' ∧ name = .valued .rule ∨
      name = .switch .help ∨ name = .switch .version := by
  unfold shortOption? at h
  split_ifs at h with hverbose _ _ hrule <;> cases h
  · exact .inl ⟨hverbose, rfl⟩
  · exact .inr (.inr (.inl rfl))
  · exact .inr (.inl ⟨hrule, rfl⟩)
  · exact .inr (.inr (.inr rfl))

theorem takeLetters_cases {level : Level} {letter : Char} {rest : Text} {awaiting : Awaiting}
    (h : g.takeLetters level (letter :: rest) = .ok (g', awaiting)) :
    letter = 'v' ∧ (∃ g₁, g.takeSwitch .verbose = .ok g₁ ∧
      g₁.takeLetters level rest = .ok (g', awaiting)) ∨
    letter = 'r' ∧ (rest = [] ∧ g' = g ∧ awaiting = .value .rule ∨
      ∃ value, g.takeValue .rule value = .ok g' ∧ awaiting = .anything ∧
        (rest = '=' :: value ∨ rest = value ∧ value ≠ [] ∧ value.head? ≠ some '=')) := by
  rw [takeLetters] at h
  cases hoption : shortOption? level letter with
  | none =>
    rw [hoption] at h
    cases h
  | some name =>
    rw [hoption] at h
    rcases shortOption?_cases hoption with ⟨rfl, rfl⟩ | ⟨rfl, rfl⟩ | rfl | rfl
    · exact .inl ⟨rfl, bind_eq_ok_iff.1 h⟩
    · refine .inr ⟨rfl, ?_⟩
      simp only at h
      split at h
      · cases h
        exact .inl ⟨rfl, rfl, rfl⟩
      · next value =>
        obtain ⟨g₁, hvalue, hrest⟩ := bind_eq_ok_iff.1 h
        cases hrest
        exact .inr ⟨value, hvalue, rfl, .inl rfl⟩
      · next hnil hequals =>
        obtain ⟨g₁, hvalue, hrest⟩ := bind_eq_ok_iff.1 h
        cases hrest
        refine .inr ⟨rest, hvalue, rfl, .inr ⟨rfl, hnil, fun hhead => ?_⟩⟩
        obtain ⟨value, rfl⟩ := List.head?_eq_some_iff.1 hhead
        exact hequals value rfl
    · cases h
    · cases h

theorem keeps_of_takeLetters {level : Level} {letters : Text} {awaiting : Awaiting}
    (h : g.takeLetters level letters = .ok (g', awaiting)) : Keeps g g' := by
  induction letters generalizing g with
  | nil =>
    cases h
    exact .refl _
  | cons letter rest ih =>
    rcases takeLetters_cases h with ⟨-, g₁, hswitch, hrest⟩ | ⟨-, ⟨-, rfl, -⟩ | ⟨value, hvalue, -⟩⟩
    · obtain rfl := Except.ok.inj hswitch
      have hkeeps := ih hrest
      exact ⟨hkeeps.starter, hkeeps.force, hkeeps.operands⟩
    · exact .refl _
    · exact keeps_of_takeValue hvalue

end Given

def Awaiting.option? : Awaiting → Option ValueOption
  | .value option => some option
  | .anything | .operand => none

section Options

variable {level : Level} {g g' : Given} {awaiting : Awaiting} {t letters : Text}

theorem gives_of_takeLetters {n : Nat} (h : g.takeLetters level letters = .ok (g', awaiting))
    (hne : n + letters.length ≠ 0) :
    ∃ given, Gives ('-' :: (List.replicate n 'v' ++ letters)) given awaiting.option? ∧
      g'.rules = g.rules ++ given := by
  -- The `n` letters that have been read are all flags for more output.
  induction letters generalizing n g with
  | nil =>
    cases h
    obtain ⟨m, rfl⟩ := Nat.exists_eq_succ_of_ne_zero hne
    rw [List.append_nil]
    exact ⟨[], .verbose m, (List.append_nil _).symm⟩
  | cons letter rest ih =>
    rcases Given.takeLetters_cases h with ⟨rfl, g₁, hswitch, hrest⟩ |
      ⟨rfl, ⟨rfl, rfl, rfl⟩ | ⟨value, hvalue, rfl, hspelled⟩⟩
    · obtain ⟨given, hgives, hrules⟩ := ih (n := n + 1) hrest (by omega)
      rw [List.replicate_succ', List.append_assoc] at hgives
      obtain rfl := Except.ok.inj hswitch
      exact ⟨given, hgives, hrules⟩
    · exact ⟨[], .letter n, (List.append_nil _).symm⟩
    · refine ⟨[value], ?_, Given.rules_of_takeRule hvalue⟩
      rcases hspelled with rfl | ⟨rfl, hvalueNe, hequals⟩
      · exact .letterEqualsValue n value
      · exact .letterValue n hvalueNe hequals

theorem longOption?_cases {name : Text} {o : OptionName} (h : longOption? level name = some o) :
    (name = "color".toList ∧ o = .valued .color ∨ name = "rule".toList ∧ o = .valued .rule) ∨
    (name = "verbose".toList ∧ o = .switch .verbose ∨ name = "init".toList ∧ o = .switch .starter ∨
      name = "force".toList ∧ o = .switch .force) ∨ o = .switch .help ∨ o = .switch .version := by
  unfold longOption? at h
  split_ifs at h <;> cases h <;> simp_all

theorem takeLong_cases (h : g.takeLong level t = .ok (g', awaiting)) :
    (awaiting = .anything ∧ ∃ s, g.takeSwitch s = .ok g' ∧
      (t = "verbose".toList ∧ s = .verbose ∨ t = "init".toList ∧ s = .starter ∨
        t = "force".toList ∧ s = .force)) ∨
    (∃ option, g' = g ∧ awaiting = .value option ∧
      (t = "color".toList ∧ option = .color ∨ t = "rule".toList ∧ option = .rule)) ∨
    awaiting = .anything ∧ ∃ option value, g.takeValue option value = .ok g' ∧
      (t = "color=".toList ++ value ∧ option = .color ∨
        t = "rule=".toList ++ value ∧ option = .rule) := by
  have hname : t.takeWhile (· != '=') ++ t.drop (t.takeWhile (· != '=')).length = t :=
    List.prefix_iff_eq_append.1 (List.takeWhile_prefix _)
  rw [Given.takeLong] at h
  simp only at h
  split at h
  · next s hoption hdrop =>
    obtain ⟨g₁, hswitch, hrest⟩ := bind_eq_ok_iff.1 h
    cases hrest
    rw [hdrop, List.append_nil] at hname
    rw [hname] at hoption
    refine .inl ⟨rfl, s, hswitch, ?_⟩
    rcases longOption?_cases hoption with hvalued | hswitches | hstop
    · simp at hvalued
    · simpa using hswitches
    · rcases hstop with hstop | hstop <;> cases hstop <;> cases hswitch
  · next option hoption hdrop =>
    cases h
    rw [hdrop, List.append_nil] at hname
    rw [hname] at hoption
    refine .inr (.inl ⟨option, rfl, rfl, ?_⟩)
    simpa using longOption?_cases hoption
  · next option c value hoption hdrop =>
    obtain ⟨g₁, hvalue, hrest⟩ := bind_eq_ok_iff.1 h
    cases hrest
    have hequals : c = '=' := by
      have hrest : t.dropWhile (· != '=') = c :: value := by
        apply @List.append_cancel_left _ (t.takeWhile (· != '='))
        rw [List.takeWhile_append_dropWhile, ← hdrop, hname]
      simpa [hrest] using List.head?_dropWhile_not (· != '=') t
    subst hequals
    rw [hdrop] at hname
    refine .inr (.inr ⟨rfl, option, value, hvalue, ?_⟩)
    have hspelled := longOption?_cases hoption
    simp only [OptionName.valued.injEq, reduceCtorEq, and_false, or_false] at hspelled
    rcases hspelled with ⟨hcolor, rfl⟩ | ⟨hrule, rfl⟩
    · rw [hcolor] at hname
      exact .inl ⟨hname.symm, rfl⟩
    · rw [hrule] at hname
      exact .inr ⟨hname.symm, rfl⟩
  · cases h

theorem gives_of_takeLong (h : g.takeLong level t = .ok (g', awaiting)) :
    ∃ given, Gives ('-' :: '-' :: t) given awaiting.option? ∧ g'.rules = g.rules ++ given ∧
      g'.operands = g.operands := by
  rcases takeLong_cases h with ⟨rfl, s, hswitch, hspelled⟩ | ⟨option, rfl, rfl, hspelled⟩ |
    ⟨rfl, option, value, hvalue, hspelled⟩
  · obtain ⟨hrules, hoperands, -, -⟩ := Given.takeSwitch_cases hswitch
    refine ⟨[], ?_, by rw [hrules, List.append_nil], hoperands⟩
    rcases hspelled with ⟨rfl, -⟩ | ⟨rfl, -⟩ | ⟨rfl, -⟩
    · exact @Gives.flag "--verbose" (by simp)
    · exact @Gives.flag "--init" (by simp)
    · exact @Gives.flag "--force" (by simp)
  · refine ⟨[], ?_, (List.append_nil _).symm, rfl⟩
    rcases hspelled with ⟨rfl, rfl⟩ | ⟨rfl, rfl⟩
    · exact .color
    · exact .rule
  · have hoperands := (Given.keeps_of_takeValue hvalue).operands
    rcases hspelled with ⟨rfl, rfl⟩ | ⟨rfl, rfl⟩
    · have hrules := Given.rules_of_takeColor hvalue
      exact ⟨[], .colorValue value, by rw [hrules, List.append_nil], hoperands⟩
    · exact ⟨[value], .ruleValue value, Given.rules_of_takeRule hvalue, hoperands⟩

theorem grows_of_takeLong (h : g.takeLong level t = .ok (g', awaiting)) :
    Given.Grows ['-' :: '-' :: t] g g' := by
  rcases takeLong_cases h with ⟨-, s, hswitch, hspelled⟩ | ⟨option, rfl, -, -⟩ |
    ⟨-, option, value, hvalue, -⟩
  · obtain ⟨-, -, hstarter, hforce⟩ := Given.takeSwitch_cases hswitch
    constructor
    · refine fun hg => (hstarter hg).imp_right ?_
      rintro rfl
      obtain rfl : t = "init".toList := by simpa using hspelled
      exact List.mem_singleton_self _
    · refine fun hg => (hforce hg).imp_right ?_
      rintro rfl
      obtain rfl : t = "force".toList := by simpa using hspelled
      exact List.mem_singleton_self _
  · exact (Given.Keeps.refl _).grows _
  · exact (Given.keeps_of_takeValue hvalue).grows _

theorem option?_eq_none (h : ∀ option, awaiting = .value option → False) :
    awaiting.option? = none := by
  cases awaiting with
  | anything => rfl
  | value option => exact (h option rfl).elim
  | operand => rfl

end Options

/-- The next argument is read. -/
inductive ReadStep (level : Level) : Awaiting → Given → Text → Given → Awaiting → Prop where
  | value {option : ValueOption} {g g' : Given} {arg : Text} (h : IsPlain arg)
      (hvalue : g.takeValue option arg = .ok g') : ReadStep level (.value option) g arg g' .anything
  | long {awaiting awaiting' : Awaiting} {g g' : Given} {t : Text} (hopen : awaiting.option? = none)
      (h : g.takeLong level t = .ok (g', awaiting')) :
      ReadStep level awaiting g ('-' :: '-' :: t) g' awaiting'
  | short {awaiting awaiting' : Awaiting} {g g' : Given} {letters : Text}
      (hopen : awaiting.option? = none) (hne : letters ≠ [])
      (h : g.takeLetters level letters = .ok (g', awaiting')) :
      ReadStep level awaiting g ('-' :: letters) g' awaiting'
  | operand {awaiting awaiting' : Awaiting} {g g' : Given} {arg : Text}
      (hopen : awaiting.option? = none) (h : IsPlain arg)
      (hoperand : Given.takeOperand level g arg = .ok g') (hafter : awaiting'.option? = none) :
      ReadStep level awaiting g arg g' awaiting'

section Outline

variable {level : Level} {g g' : Given} {awaiting awaiting' : Awaiting} {o : Outline}

theorem outline_cons_cases {arg : Text} {rest : List Text}
    (h : outline level awaiting g (arg :: rest) = .ok o) :
    (∃ g₁ awaiting₁, ReadStep level awaiting g arg g₁ awaiting₁ ∧
      outline level awaiting₁ g₁ rest = .ok o) ∨
    (awaiting.option? = none ∧ arg = "--".toList ∧ takeOperands level g rest = .ok o.given) ∨
    o.given = g ∧ o.subcommand.isSome = true := by
  rw [outline.eq_def] at h
  simp only at h
  split at h
  · next option hform =>
    obtain ⟨g₁, hvalue, hrest⟩ := bind_eq_ok_iff.1 h
    exact .inl ⟨g₁, _, .value (isPlain_of_formOf hform) hvalue, hrest⟩
  · cases h
  · next hopen hform =>
    obtain ⟨g₁, hoperands, hrest⟩ := bind_eq_ok_iff.1 h
    cases hrest
    exact .inr (.inl ⟨option?_eq_none hopen, eq_of_formOf_separator hform, hoperands⟩)
  · next t hopen hform =>
    obtain ⟨⟨g₁, awaiting₁⟩, hlong, hrest⟩ := bind_eq_ok_iff.1 h
    rw [eq_of_formOf_long hform]
    exact .inl ⟨g₁, awaiting₁, .long (option?_eq_none hopen) hlong, hrest⟩
  · next letters hopen hform =>
    obtain ⟨⟨g₁, awaiting₁⟩, hletters, hrest⟩ := bind_eq_ok_iff.1 h
    obtain ⟨rfl, hne⟩ := eq_of_formOf_short hform
    exact .inl ⟨g₁, awaiting₁, .short (option?_eq_none hopen) hne hletters, hrest⟩
  · next hform =>
    obtain ⟨g₁, hoperand, hrest⟩ := bind_eq_ok_iff.1 h
    exact .inl ⟨g₁, _, .operand rfl (isPlain_of_formOf hform) hoperand rfl, hrest⟩
  · next hform =>
    split at h
    · cases h
      exact .inr (.inr ⟨rfl, rfl⟩)
    · split at h
      · cases h
      · obtain ⟨g₁, hoperand, hrest⟩ := bind_eq_ok_iff.1 h
        refine .inl ⟨g₁, _, .operand rfl (isPlain_of_formOf hform) hoperand ?_, hrest⟩
        split_ifs <;> rfl

theorem takeOperand_cases {operand : Text} (h : Given.takeOperand level g operand = .ok g') :
    g' = { g with operands := g.operands ++ [operand] } := by
  rw [Given.takeOperand] at h
  split at h
  · exact (Except.ok.inj h).symm
  · cases h

theorem takeOperands_eq_ok {args : List Text} (h : takeOperands level g args = .ok g') :
    g' = { g with operands := g.operands ++ args } := by
  induction args generalizing g with
  | nil =>
    cases h
    rw [List.append_nil]
  | cons arg rest ih =>
    rw [takeOperands, List.foldlM_cons] at h
    obtain ⟨g₁, hfirst, hrest⟩ := bind_eq_ok_iff.1 h
    rw [ih hrest, takeOperand_cases hfirst, List.append_assoc]
    rfl

theorem ReadStep.grows {arg : Text} (h : ReadStep level awaiting g arg g' awaiting') :
    Given.Grows [arg] g g' := by
  cases h with
  | value _ hvalue => exact (Given.keeps_of_takeValue hvalue).grows _
  | long _ hlong => exact grows_of_takeLong hlong
  | short _ _ hletters => exact (Given.keeps_of_takeLetters hletters).grows _
  | operand _ _ hoperand _ =>
    rw [takeOperand_cases hoperand]
    exact ⟨.inl, .inl⟩

theorem grows_of_outline {args : List Text} (h : outline level awaiting g args = .ok o) :
    Given.Grows args g o.given := by
  induction args generalizing awaiting g with
  | nil =>
    rw [outline.eq_def] at h
    simp only at h
    split at h <;> cases h
    exact (Given.Keeps.refl g).grows []
  | cons arg rest ih =>
    rcases outline_cons_cases h with ⟨g₁, awaiting₁, hstep, hrest⟩ | ⟨-, -, hoperands⟩ | ⟨hsame, -⟩
    · exact hstep.grows.cons (ih hrest)
    · rw [takeOperands_eq_ok hoperands]
      exact ⟨.inl, .inl⟩
    · rw [hsame]
      exact (Given.Keeps.refl g).grows _

/-- What the arguments hold if the first of them may have to be the value of an option. -/
inductive AssignsFrom : Option ValueOption → List Text → List Text → List Text → Prop where
  | nothing {args rules paths : List Text} (h : Assigns args rules paths) :
      AssignsFrom none args rules paths
  | rule {value : Text} {args rules paths : List Text} (hvalue : IsPlain value)
      (h : Assigns args rules paths) :
      AssignsFrom (some .rule) (value :: args) (value :: rules) paths
  | color {value : Text} {args rules paths : List Text} (hvalue : IsPlain value)
      (h : Assigns args rules paths) : AssignsFrom (some .color) (value :: args) rules paths

theorem Gives.assigns {arg : Text} {given args rules paths : List Text}
    {option : Option ValueOption} (h : Gives arg given option)
    (hrest : AssignsFrom option args rules paths) :
    Assigns (arg :: args) (given ++ rules) paths := by
  cases hrest with
  | nothing hargs => exact .option h hargs
  | rule hvalue hargs =>
    obtain rfl : given = [] := by cases h <;> rfl
    exact .rule h hvalue hargs
  | color hvalue hargs =>
    obtain rfl : given = [] := by cases h; rfl
    exact .color h hvalue hargs

theorem AssignsFrom.of_none {option : Option ValueOption} {args rules paths : List Text}
    (h : AssignsFrom option args rules paths) (hnone : option = none) :
    Assigns args rules paths := by
  cases h with
  | nothing h => exact h
  | rule _ _ => cases hnone
  | color _ _ => cases hnone

theorem ReadStep.assigns {arg : Text} {rest rules paths : List Text}
    (h : ReadStep level awaiting g arg g' awaiting')
    (hrest : AssignsFrom awaiting'.option? rest rules paths) :
    ∃ given taken, g'.rules = g.rules ++ given ∧ g'.operands = g.operands ++ taken ∧
      AssignsFrom awaiting.option? (arg :: rest) (given ++ rules) (taken ++ paths) := by
  cases h with
  | @value option _ _ _ hplain hvalue =>
    have hoperands := (Given.keeps_of_takeValue hvalue).operands
    have hargs := hrest.of_none rfl
    cases option with
    | rule =>
      exact ⟨[arg], [], Given.rules_of_takeRule hvalue, by rw [hoperands, List.append_nil],
        .rule hplain hargs⟩
    | color =>
      exact ⟨[], [], by rw [Given.rules_of_takeColor hvalue, List.append_nil],
        by rw [hoperands, List.append_nil], .color hplain hargs⟩
  | long hopen hlong =>
    obtain ⟨given, hgives, hrules, hoperands⟩ := gives_of_takeLong hlong
    rw [hopen]
    exact ⟨given, [], hrules, by rw [hoperands, List.append_nil], .nothing (hgives.assigns hrest)⟩
  | short hopen hne hletters =>
    obtain ⟨given, hgives, hrules⟩ := gives_of_takeLetters (n := 0) hletters (by simpa using hne)
    have hoperands := (Given.keeps_of_takeLetters hletters).operands
    rw [hopen]
    exact ⟨given, [], hrules, by rw [hoperands, List.append_nil], .nothing (hgives.assigns hrest)⟩
  | operand hopen hplain hoperand hafter =>
    rw [hopen, takeOperand_cases hoperand]
    exact ⟨[], [arg], (List.append_nil _).symm, rfl, .nothing (.path hplain (hrest.of_none hafter))⟩

theorem assigns_of_outline {args : List Text} (h : outline level awaiting g args = .ok o)
    (hnone : o.subcommand = none) :
    ∃ rules paths, o.given.rules = g.rules ++ rules ∧ o.given.operands = g.operands ++ paths ∧
      AssignsFrom awaiting.option? args rules paths := by
  induction args generalizing awaiting g with
  | nil =>
    rw [outline.eq_def] at h
    simp only at h
    split at h
    · cases h
    · next hopen =>
      cases h
      rw [option?_eq_none hopen]
      exact ⟨[], [], (List.append_nil _).symm, (List.append_nil _).symm, .nothing .done⟩
  | cons arg rest ih =>
    rcases outline_cons_cases h with ⟨g₁, awaiting₁, hstep, hrest⟩ | ⟨hopen, rfl, hoperands⟩ |
      ⟨-, hsome⟩
    · obtain ⟨rules, paths, hrules, hpaths, hassigns⟩ := ih hrest
      obtain ⟨given, taken, hgiven, htaken, hall⟩ := hstep.assigns hassigns
      exact ⟨given ++ rules, taken ++ paths, by rw [hrules, hgiven, List.append_assoc],
        by rw [hpaths, htaken, List.append_assoc], hall⟩
    · rw [takeOperands_eq_ok hoperands, hopen]
      exact ⟨[], rest, (List.append_nil _).symm, rfl, .nothing (.separator rest)⟩
    · rw [hnone] at hsome
      cases hsome

end Outline

theorem finish_eq_ok {top : Given} {task : Task} {levels : List Given} {i : Invocation}
    (h : finish top task levels = .ok i) :
    i.task = .starter top.force ∧ top.starter = true ∨ i.task = task := by
  rw [finish] at h
  split_ifs at h with hforce hstarter
  · cases h
    exact .inl ⟨rfl, hstarter⟩
  · cases h
    exact .inr rfl

inductive Asks (args : List Text) (top : Given) : Task → Prop where
  | starter (h : top.starter = true) : Asks args top (.starter top.force)
  | rename (h : Assigns args top.rules top.operands) :
      Asks args top (.rename top.rules top.operands)
  | check (rule : Text) : Asks args top (.check rule)
  | showSettings : Asks args top .showSettings
  | validateSettings : Asks args top .validateSettings

theorem Asks.of_finish {args : List Text} {top : Given} {task : Task} {levels : List Given}
    {i : Invocation} (h : finish top task levels = .ok i) (htask : Asks args top task) :
    Asks args top i.task := by
  rcases finish_eq_ok h with ⟨heq, hstarter⟩ | heq
  · exact heq ▸ .starter hstarter
  · exact heq ▸ htask

theorem exists_asks {args : List Text} {i : Invocation} (h : parse args = .ok i) :
    ∃ top, Given.Grows args .nothing top ∧ Asks args top i.task := by
  rw [parse] at h
  obtain ⟨top, htop, h⟩ := bind_eq_ok_iff.1 h
  refine ⟨top.given, grows_of_outline htop, ?_⟩
  split at h
  · next hnone =>
    obtain ⟨rules, paths, hrules, hpaths, hassigns⟩ := assigns_of_outline htop hnone
    refine .of_finish h (.rename ?_)
    rw [hrules, hpaths]
    exact hassigns.of_none rfl
  · obtain ⟨check, -, h⟩ := bind_eq_ok_iff.1 h
    split at h
    · exact .of_finish h (.check _)
    · cases h
  · obtain ⟨settings, -, h⟩ := bind_eq_ok_iff.1 h
    split at h
    · cases h
    · obtain ⟨last, -, h⟩ := bind_eq_ok_iff.1 h
      refine .of_finish h ?_
      split_ifs
      · exact .showSettings
      · exact .validateSettings

theorem mem_of_starter {args : List Text} {i : Invocation} {overwrite : Bool}
    (h : parse args = .ok i) (htask : i.task = .starter overwrite) :
    "--init".toList ∈ args ∧ (overwrite = true → "--force".toList ∈ args) := by
  obtain ⟨top, hgrows, hasks⟩ := exists_asks h
  rw [htask] at hasks
  cases hasks with
  | starter hstarter =>
    have hinit := (hgrows.starter hstarter).resolve_left (by decide)
    exact ⟨hinit, fun hforce => (hgrows.force hforce).resolve_left (by decide)⟩

theorem assigns_of_rename {args rules paths : List Text} {i : Invocation}
    (h : parse args = .ok i) (htask : i.task = .rename rules paths) : Assigns args rules paths := by
  obtain ⟨top, -, hasks⟩ := exists_asks h
  rw [htask] at hasks
  cases hasks with
  | rename hassigns => exact hassigns

end Reroute.Command.Arguments
