import Reroute.Proofs.FirstFailures
import Reroute.Proofs.ParentPaths
import Reroute.Settings.Cascade

set_option autoImplicit false

/-!
# The order of the cascade

Which settings files belong to the cascade of a directory, in which order, and that the search
reads these and no others.
-/

namespace Reroute

namespace Traced

variable {ε α β : Type}

theorem bind_congr {x : Traced ε α} {f g : α → Traced ε β}
    (h : ∀ a, x.result = .ok a → f a = g a) : x >>= f = x >>= g := by
  cases hx : x.result with
  | error e => simp only [bind, hx]
  | ok a => simp only [bind, hx, h a hx]

end Traced

namespace Cascade

/-- What comes of the settings file at a path, if there is one. -/
def load? (files : FileSystem) (checked : Bool) (path : Text) :
    Option (Except SettingsError LoadedSettings) :=
  (files path).map fun entry =>
    LoadedSettings.mk path <$> (Settings.readEntry checked path entry).result

def verified (loaded : LoadedSettings) : Except SettingsError LoadedSettings :=
  (fun _ => loaded) <$> loaded.settings.check loaded.path

theorem path_of_load? {files : FileSystem} {checked : Bool} {path : Text} {loaded : LoadedSettings}
    (h : load? files checked path = some (.ok loaded)) : loaded.path = path := by
  obtain ⟨entry, -, hread⟩ := Option.map_eq_some_iff.1 h
  obtain ⟨settings, -, rfl⟩ := map_eq_ok_iff.1 hread
  rfl

theorem result_readEntry_true (path : Text) (entry : Entry) :
    (Settings.readEntry true path entry).result =
      (Settings.readEntry false path entry).result >>= fun settings =>
        (fun _ => settings) <$> settings.check path := by
  rw [Settings.readEntry, Settings.readEntry]
  cases entry.read with
  | error reason => rfl
  | ok content =>
    simp only [Settings.readText, Traced.result_bind, Traced.result_ofExcept, Traced.result_log]
    cases Settings.ofText path content with
    | error e => rfl
    | ok settings =>
      cases hcheck : settings.check path <;> simp [bind, Except.bind, hcheck]

theorem load?_true (files : FileSystem) (path : Text) :
    load? files true path = (load? files false path).map fun r => r >>= verified := by
  rw [load?, load?, Option.map_map]
  refine congrFun (congrArg _ (funext fun entry => ?_)) _
  rw [result_readEntry_true]
  cases hread : (Settings.readEntry false path entry).result with
  | error e => simp [bind, Except.bind, hread]
  | ok settings => simp [bind, Except.bind, hread, verified]

theorem load?_false_of_ok {files : FileSystem} {checked : Bool} {path : Text}
    {loaded : LoadedSettings} (h : load? files checked path = some (.ok loaded)) :
    load? files false path = some (.ok loaded) := by
  cases checked with
  | false => exact h
  | true =>
    rw [load?_true] at h
    obtain ⟨r, hr, hverified⟩ := Option.map_eq_some_iff.1 h
    obtain ⟨_, rfl, hloaded⟩ := bind_eq_ok_iff.1 hverified
    obtain ⟨-, -, rfl⟩ := map_eq_ok_iff.1 hloaded
    exact hr

def isRoot (files : FileSystem) (path : Text) : Bool :=
  match load? files false path with
  | some (.ok loaded) => loaded.settings.root
  | _ => false

theorem isRoot_of_ok {files : FileSystem} {checked : Bool} {path : Text} {loaded : LoadedSettings}
    (h : load? files checked path = some (.ok loaded)) :
    isRoot files path = loaded.settings.root := by
  rw [isRoot, load?_false_of_ok h]

theorem isRoot_of_absent {files : FileSystem} {checked : Bool} {path : Text}
    (h : load? files checked path = none) : isRoot files path = false := by
  rw [isRoot, load?, Option.map_eq_none_iff.1 h, Option.map_none]

def upTo (stops : Text → Bool) (paths : List Text) : List Text :=
  paths.take (paths.findIdx stops + 1)

theorem upTo_cons (stops : Text → Bool) (path : Text) (paths : List Text) :
    upTo stops (path :: paths) = path :: if stops path then [] else upTo stops paths := by
  rw [upTo, List.take_succ_cons, List.findIdx_cons]
  cases stops path <;> rfl

theorem upTo_append (stops : Text → Bool) (before after : List Text) :
    upTo stops (before ++ after) =
      upTo stops before ++ if before.any stops then [] else upTo stops after := by
  induction before with
  | nil => simp [upTo]
  | cons path before ih =>
    rw [List.cons_append, upTo_cons, upTo_cons, ih, List.any_cons]
    cases stops path <;> simp

theorem upTo_append_of_none {stops : Text → Bool} {before : List Text}
    (h : ∀ path ∈ before, stops path = false) (after : List Text) :
    upTo stops (before ++ after) = before ++ upTo stops after := by
  have hany : before.any stops = false :=
    List.any_eq_false.2 fun path hpath => Bool.eq_false_iff.1 (h path hpath)
  have hbefore : upTo stops before = before := by
    rw [upTo, List.findIdx_eq_length.2 h]
    exact List.take_of_length_le (Nat.le_succ _)
  rw [upTo_append, hbefore, hany, if_neg Bool.false_ne_true]

def ascent (files : FileSystem) (dirs : List Text) : List Text :=
  upTo (isRoot files) (dirs.map fileIn)

def listed (files : FileSystem) (paths : List Text) : List LoadedSettings :=
  paths.filterMap fun path => (load? files false path).bind Except.toOption

/-- The value is the word, with capitals in the place of any of its letters. -/
def Spells (word value : Text) : Prop :=
  List.Forall₂ (fun c d => d = c ∨ d = c.toUpper) word value

theorem toLower_eq_iff {c d : Char} (hc : ¬ c.isUpper = true) :
    d.toLower = c ↔ d = c ∨ d = c.toUpper := by
  constructor
  · rintro rfl
    by_cases hd : d.isUpper = true
    · have hlower : ¬ d.isLower = true := Char.not_isLower_of_isUpper hd
      rw [Char.toUpper_toLower_eq_toUpper, Char.toUpper_eq_of_not_isLower hlower]
      exact .inr rfl
    · exact .inl (Char.toLower_eq_of_not_isUpper hd).symm
  · have hlower := Char.toLower_eq_of_not_isUpper hc
    rintro (rfl | rfl)
    · exact hlower
    · rw [Char.toLower_toUpper_eq_toLower, hlower]

theorem spells_iff {word : Text} (h : ∀ c ∈ word, ¬ c.isUpper = true) (value : Text) :
    Spells word value ↔ value.map Char.toLower = word := by
  rw [Spells]
  induction word generalizing value with
  | nil => rw [List.forall₂_nil_left_iff, List.map_eq_nil_iff]
  | cons c word ih =>
    obtain ⟨hc, hword⟩ := List.forall_mem_cons.1 h
    rw [List.forall₂_cons_left_iff, List.map_eq_cons_iff]
    simp only [ih hword, toLower_eq_iff hc]
    constructor
    · rintro ⟨d, rest, hd, hrest, rfl⟩
      exact ⟨d, rest, rfl, hd, hrest⟩
    · rintro ⟨d, rest, rfl, hd, hrest⟩
      exact ⟨d, rest, hd, hrest, rfl⟩

theorem isTruthy_eq_false_iff {value : Text} : isTruthy value = false ↔
    value = [] ∨ ∃ word ∈ ["0", "false", "no"], Spells word.toList value := by
  have hwords : ∀ word ∈ ["0", "false", "no"], ∀ c ∈ word.toList, ¬ c.isUpper = true := by
    simp [Char.isUpper]
  have hspells : (∃ word ∈ ["0", "false", "no"], Spells word.toList value) ↔
      ∃ word ∈ ["0", "false", "no"], value.map Char.toLower = word.toList := by
    refine exists_congr fun word => and_congr_right fun hword => ?_
    exact spells_iff (hwords word hword) value
  rw [hspells, isTruthy, Bool.and_eq_false_iff, Bool.not_eq_false', List.isEmpty_iff,
    List.all_eq_false]
  simp only [bne_iff_ne, ne_eq, not_not]
def homeIsOff (environment : Environment) (found : List LoadedSettings) : Bool :=
  found.any fun loaded =>
    loaded.settings.homeSwitch.any fun name => (environment name).any isTruthy

def homePaths (environment : Environment) (home : Text) (found : List LoadedSettings) :
    List Text :=
  if homeIsOff environment found || found.any fun loaded => FilePath.same loaded.path (fileIn home)
  then [] else [fileIn home]

/-- The paths of the settings files of a directory, in the order in which they count. -/
def order (host : Host) (home start : Text) : List Text :=
  let near := ascent host.files (FilePath.withParents start)
  near ++ homePaths host.environment home (listed host.files near)

def homeAttempts (host : Host) (checked : Bool) (found : List LoadedSettings) :
    List (Except SettingsError LoadedSettings) :=
  match host.home with
  | some home => (homePaths host.environment home found).filterMap (load? host.files checked)
  | none => if homeIsOff host.environment found then [] else [.error .noHome]

def attempts (host : Host) (checked : Bool) (start : Text) :
    List (Except SettingsError LoadedSettings) :=
  let near := ascent host.files (FilePath.withParents start)
  near.filterMap (load? host.files checked) ++
    homeAttempts host checked (listed host.files near)

theorem attempts_eq {host : Host} {home : Text} (hhome : host.home = some home) (checked : Bool)
    (start : Text) :
    attempts host checked start = (order host home start).filterMap (load? host.files checked) := by
  simp only [attempts, homeAttempts, hhome, order, List.filterMap_append]

theorem loads_cons_iff {files : FileSystem} {checked : Bool} {path : Text} {paths : List Text}
    {found : List LoadedSettings} :
    (path :: paths).filterMap (load? files checked) = found.map .ok ↔
      (load? files checked path = none ∧
        paths.filterMap (load? files checked) = found.map .ok) ∨
      ∃ loaded rest, found = loaded :: rest ∧ load? files checked path = some (.ok loaded) ∧
        paths.filterMap (load? files checked) = rest.map .ok := by
  cases hload : load? files checked path with
  | none => simp [List.filterMap_cons_none hload]
  | some r =>
    rw [List.filterMap_cons_some hload, eq_comm, List.map_eq_cons_iff]
    simp [eq_comm]

theorem listed_eq {files : FileSystem} {checked : Bool} {paths : List Text}
    {found : List LoadedSettings} (h : paths.filterMap (load? files checked) = found.map .ok) :
    listed files paths = found := by
  induction paths generalizing found with
  | nil =>
    rw [List.map_eq_nil_iff.1 h.symm]
    rfl
  | cons path paths ih =>
    rw [listed, List.filterMap_cons]
    rcases loads_cons_iff.1 h with ⟨hload, hrest⟩ | ⟨loaded, rest, rfl, hload, hrest⟩
    · rw [load?, Option.map_eq_none_iff] at hload
      rw [load?, hload]
      exact ih hrest
    · rw [load?_false_of_ok hload]
      exact congrArg _ (ih hrest)

theorem result_walk_cons (files : FileSystem) (checked : Bool) (dir : Text) (rest : List Text) :
    (walk files checked (dir :: rest)).result =
      match load? files checked (fileIn dir) with
      | none => (walk files checked rest).result
      | some (.error e) => .error e
      | some (.ok loaded) =>
        if loaded.settings.root then .ok [loaded]
        else (loaded :: ·) <$> (walk files checked rest).result := by
  rw [walk, load?]
  cases hfile : files (fileIn dir) with
  | none => rfl
  | some entry =>
    simp only [Traced.result_bind, Traced.result_log, Option.map_some]
    cases (Settings.readEntry checked (fileIn dir) entry).result with
    | error e => rfl
    | ok settings =>
      change (ite (settings.root = true) _ _ : Traced _ _).result = ite (settings.root = true) _ _
      split_ifs with hroot
      · rfl
      · rw [Traced.result_bind]
        cases (walk files checked rest).result <;> rfl

theorem result_walk (files : FileSystem) (checked : Bool) (dirs : List Text) :
    (walk files checked dirs).result =
      ((ascent files dirs).filterMap (load? files checked)).mapM id := by
  induction dirs with
  | nil => rfl
  | cons dir dirs ih =>
    rw [result_walk_cons, ascent, List.map_cons, upTo_cons, ← ascent]
    cases hload : load? files checked (fileIn dir) with
    | none =>
      simp only [isRoot_of_absent hload]
      rw [List.filterMap_cons_none hload]
      exact ih
    | some r =>
      rw [List.filterMap_cons_some hload]
      cases r with
      | error e => exact (collect_cons_error e _).symm
      | ok loaded =>
        rw [collect_cons_ok, isRoot_of_ok hload]
        -- A root ends the walk and the ascent alike.
        change ite (loaded.settings.root = true) _ _ = _
        split_ifs with hroot
        · rfl
        · exact congrArg _ ih

theorem isSome_homeSwitch? (environment : Environment) (found : List LoadedSettings) :
    (homeSwitch? environment found).isSome = homeIsOff environment found := by
  rw [homeSwitch?, homeIsOff, Bool.eq_iff_iff, List.findSome?_isSome_iff, List.any_eq_true]
  refine exists_congr fun loaded => and_congr_right fun _ => ?_
  cases loaded.settings.homeSwitch with
  | none => simp
  | some name =>
    change ((environment name).bind fun value =>
      if isTruthy value then some name else none).isSome = true ↔
        (environment name).any isTruthy = true
    cases environment name with
    | none => exact Iff.rfl
    | some value => cases hvalue : isTruthy value <;> simp [hvalue]

theorem result_homeSettings (host : Host) (checked : Bool) (found : List LoadedSettings) :
    (homeSettings host checked found).result = (homeAttempts host checked found).mapM id := by
  have hoff := isSome_homeSwitch? host.environment found
  rw [homeSettings, homeAttempts]
  cases hswitch : homeSwitch? host.environment found with
  | some name =>
    rw [hswitch, Option.isSome_some] at hoff
    cases host.home with
    | none => simp only [← hoff, if_true]; rfl
    | some home => simp only [homePaths, ← hoff, Bool.true_or, if_true]; rfl
  | none =>
    rw [hswitch, Option.isSome_none] at hoff
    simp only [Traced.result_bind, Traced.result_ofExcept, homeFile]
    cases host.home with
    | none => simp only [← hoff, Bool.false_eq_true, if_false]; rfl
    | some home =>
      simp only [homePaths, ← hoff, Bool.false_or]
      change (ite _ _ _ : Traced _ _).result = _
      split_ifs with hseen
      · rfl
      · cases hfile : host.files (fileIn home) with
        | none =>
          simp only [load?, hfile, List.filterMap_cons, Option.map_none]
          rfl
        | some entry =>
          simp only [load?, hfile, List.filterMap_cons, Option.map_some, Traced.result_bind]
          cases (Settings.readEntry checked (fileIn home) entry).result <;> rfl

/-- The search gives the settings in their order, or the first failure among them. -/
theorem result_discover (host : Host) (checked : Bool) (start : Text) :
    (discover host checked start).result = (attempts host checked start).mapM id := by
  rw [attempts, List.mapM_append, ← result_walk, discover, Traced.result_bind]
  cases hwalk : (walk host.files checked (FilePath.withParents start)).result with
  | error e => rfl
  | ok near =>
    rw [result_walk, collect_eq_ok_iff] at hwalk
    rw [listed_eq hwalk, ← result_homeSettings]
    simp only [Traced.result_bind, Traced.result_pure]
    rfl

end Cascade

end Reroute
