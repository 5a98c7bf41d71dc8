import Mathlib.Data.List.Basic
import Probing.Fault
import Probing.Proofs.Number.Whole

/-!
# Loading settings

Every variable is judged on its own text: a level has to be named in any case, a size has to be a
whole number within its range, and a label must not be empty or structure the report. Settings are
loaded if all variables pass, and are then what the texts say, with a standard value for a variable
that is not set. Otherwise the issues of all variables are listed, one variable after the other.

## Main definitions

* `Settings.IsSize`, `Settings.IsLabel`: what sizes and labels have to be
* `Variable.Accepts`: the texts that a variable may be set to
* `Settings.asRead`: what the texts of an environment say
* `Settings.complaints`: the issues of one variable
* `Settings.Sized`: the sizes of settings are in range

## Main results

* `Settings.load_eq_ok_iff`: settings are loaded exactly if every variable accepts its text
* `Settings.load_sized`: loaded settings are in range
* `Settings.load_judges_each`: which settings are loaded, and which issues are listed
-/

namespace Probing

/-! ## Levels -/

namespace Log.Level

theorem ofName?_name (level : Level) : ofName? level.name = some level := by
  cases level <;> rfl

theorem ofName?_eq_some_iff {name : Text} {level : Level} :
    ofName? name = some level ↔ name = level.name := by
  constructor
  · intro h
    have hname := List.find?_some h
    exact (decide_eq_true_iff.mp hname).symm
  · rintro rfl
    exact ofName?_name level

theorem name_inj {level level' : Level} : level.name = level'.name ↔ level = level' := by
  rw [← ofName?_eq_some_iff, ofName?_name, Option.some_inj]

end Log.Level

namespace Settings

/-! ## Sizes and labels -/

/-- A size within the range of settings. -/
def IsSize (size : Number) : Prop :=
  ∃ n : Nat, 0 < n ∧ n ≤ maxSize ∧ size = .ofNat n

theorem sizeProblems_eq_nil_iff {size : Number} : sizeProblems size = [] ↔ IsSize size := by
  constructor
  · intro h
    unfold sizeProblems at h
    split at h
    · cases h
    · obtain ⟨hbelow, hlarge⟩ := List.append_eq_nil_iff.mp h
      obtain ⟨hinteger, hsmall⟩ := List.append_eq_nil_iff.mp hbelow
      cases hi : size.toInt? with
      | none => simp [hi] at hinteger
      | some i =>
        obtain rfl := Number.toInt?_eq_some_iff.mp hi
        have hone : ¬ i < 1 := by
          intro hlt
          rw [← Number.ofInt_natCast, Number.blt_ofInt] at hsmall
          simp [hlt] at hsmall
        have hmax : ¬ (maxSize : Int) < i := by
          intro hlt
          rw [← Number.ofInt_natCast, Number.blt_ofInt] at hlarge
          simp [hlt] at hlarge
        refine ⟨i.toNat, by omega, by omega, ?_⟩
        rw [← Number.ofInt_natCast, Int.toNat_of_nonneg (by omega)]
  · rintro ⟨n, hpos, hle, rfl⟩
    have hnumber : Number.ofNat n ≠ .nan := nofun
    have hinteger : (Number.ofNat n).toInt? = some (n : Int) := Number.toInt?_eq_some_iff.mpr rfl
    have hsmall : ¬ n < 1 := Nat.not_lt.mpr hpos
    have hlarge : ¬ maxSize < n := Nat.not_lt.mpr hle
    simp [sizeProblems, hnumber, hinteger, Number.blt_ofNat, hsmall, hlarge]

/-- A text that may stand in front of a report. -/
def IsLabel (label : Text) : Prop :=
  label ≠ [] ∧ unit '/' ∉ label ∧ unit '\n' ∉ label

theorem labelProblems_eq_nil_iff {label : Text} : labelProblems label = [] ↔ IsLabel label := by
  unfold labelProblems IsLabel
  rw [List.append_eq_nil_iff]
  by_cases hempty : label = []
  · simp [hempty]
  · simp [hempty]

end Settings

/-! ## Variables -/

/-- The texts that a variable may be set to. -/
def Variable.Admits : Variable → Text → Prop
  | .logLevel, given => ∃ level : Log.Level, given.lowercase = level.name
  | .defaultCapacity, given | .initialCeiling, given | .growthStep, given =>
    Settings.IsSize (.ofText given)
  | .reportLabel, given => Settings.IsLabel given
  | .testRunner, _ | .deployment, _ => True

/-- A variable may be left as it is, set or not. -/
def Variable.Accepts (name : Variable) (given : Option Text) : Prop :=
  ∀ text, given = some text → name.Admits text

namespace Settings

/-- Everything that is wrong with the text of a variable. -/
def problemsOf : Variable → Text → List Problem
  | .logLevel, given =>
    if (Log.Level.ofName? given.lowercase).isSome then [] else [.unknownLevel given.lowercase]
  | .defaultCapacity, given | .initialCeiling, given | .growthStep, given =>
    sizeProblems (.ofText given)
  | .reportLabel, given => labelProblems given
  | .testRunner, _ | .deployment, _ => []

/-- The issues of a variable. One that is not set has none. -/
def complaints (name : Variable) (given : Option Text) : List Issue :=
  (given.elim [] (problemsOf name)).map (Issue.mk name)

theorem problemsOf_eq_nil_iff {name : Variable} {given : Text} :
    problemsOf name given = [] ↔ name.Admits given := by
  cases name with
  | logLevel =>
    have hnamed : (Log.Level.ofName? given.lowercase).isSome ↔
        ∃ level : Log.Level, given.lowercase = level.name := by
      simp only [Option.isSome_iff_exists, Log.Level.ofName?_eq_some_iff]
    simp [problemsOf, Variable.Admits, hnamed]
  | defaultCapacity | initialCeiling | growthStep => exact sizeProblems_eq_nil_iff
  | reportLabel => exact labelProblems_eq_nil_iff
  | testRunner | deployment => exact iff_of_true rfl trivial

/-- **A variable has no issues exactly if it accepts its text.** -/
theorem complaints_eq_nil_iff {name : Variable} {given : Option Text} :
    complaints name given = [] ↔ name.Accepts given := by
  rw [complaints, List.map_eq_nil_iff, Variable.Accepts]
  cases given with
  | none => simp
  | some text => simpa using problemsOf_eq_nil_iff

/-! ## One reading -/

theorem readLevel_eq_ok_iff {given : Option Text} {level : Log.Level} :
    readLevel given = .ok level ↔
      given.elim Log.Level.silent.name Text.lowercase = level.name := by
  cases given with
  | none => simp [readLevel, Log.Level.name_inj]
  | some text =>
    rw [Option.elim_some, ← Log.Level.ofName?_eq_some_iff]
    unfold readLevel
    dsimp only
    cases Log.Level.ofName? text.lowercase <;> simp

theorem readSize_eq_ok_iff {standard : Nat} {given : Option Text} {size : Number} :
    readSize standard given = .ok size ↔
      (∀ text, given = some text → IsSize (.ofText text)) ∧
        given.elim (.ofNat standard) Number.ofText = size := by
  cases given with
  | none => simp [readSize]
  | some text =>
    have hproblems := @sizeProblems_eq_nil_iff (.ofText text)
    unfold readSize
    dsimp only
    split <;> simp_all

theorem readLabel_eq_ok_iff {given : Option Text} {label : Text} :
    readLabel given = .ok label ↔
      (∀ text, given = some text → IsLabel text) ∧
        given.getD Report.standardLabel = label := by
  cases given with
  | none => simp [readLabel]
  | some text =>
    have hproblems := @labelProblems_eq_nil_iff text
    unfold readLabel
    dsimp only
    split <;> simp_all

/-! ## Loading -/

/-- Settings are loaded exactly if each can be read from its own variable. -/
theorem load_eq_ok_iff {environment : Environment} {settings : Settings} :
    load environment = .ok settings ↔
      (∃ level, readLevel (environment .logLevel) = .ok level ∧ settings.level = level.name) ∧
        readSize Condition.standardCapacity (environment .defaultCapacity) =
          .ok settings.defaultCapacity ∧
        readSize standardBlock (environment .initialCeiling) = .ok settings.initialCeiling ∧
        readSize standardBlock (environment .growthStep) = .ok settings.growthStep ∧
        readLabel (environment .reportLabel) = .ok settings.label := by
  constructor
  · intro h
    unfold load at h
    dsimp only at h
    split at h
    · next hlevel hcapacity hceiling hstep hlabel =>
      obtain rfl := Except.ok.inj h
      exact ⟨⟨_, hlevel, rfl⟩, hcapacity, hceiling, hstep, hlabel⟩
    · cases h
  · rintro ⟨⟨level, hlevel, hname⟩, hcapacity, hceiling, hstep, hlabel⟩
    simp only [load, hlevel, hcapacity, hceiling, hstep, hlabel, ← hname]

/-- The level of loaded settings has its name. -/
theorem exists_level_of_load {environment : Environment} {settings : Settings}
    (h : load environment = .ok settings) : ∃ level : Log.Level, settings.level = level.name := by
  obtain ⟨⟨level, -, hname⟩, -⟩ := load_eq_ok_iff.mp h
  exact ⟨level, hname⟩

/-- The sizes of settings are in range. -/
structure Sized (settings : Settings) : Prop where
  defaultCapacity : IsSize settings.defaultCapacity
  initialCeiling : IsSize settings.initialCeiling
  growthStep : IsSize settings.growthStep

theorem readSize_isSize {standard : Nat} {given : Option Text} {size : Number}
    (hstandard : IsSize standard) (h : readSize standard given = .ok size) : IsSize size := by
  obtain ⟨hsize, rfl⟩ := readSize_eq_ok_iff.mp h
  cases given with
  | none => exact hstandard
  | some text => exact hsize text rfl

/-- **Loaded settings are in range.** -/
theorem load_sized {environment : Environment} {settings : Settings}
    (h : load environment = .ok settings) : settings.Sized := by
  have hcapacity : IsSize Condition.standardCapacity := ⟨_, by decide, by decide, rfl⟩
  have hblock : IsSize standardBlock := ⟨_, by decide, by decide, rfl⟩
  obtain ⟨-, hdefault, hceiling, hstep, -⟩ := load_eq_ok_iff.mp h
  exact
    { defaultCapacity := readSize_isSize hcapacity hdefault
      initialCeiling := readSize_isSize hblock hceiling
      growthStep := readSize_isSize hblock hstep }

/-- The standard capacity can be counted up to. -/
theorem Sized.exists_defaultCapacity {settings : Settings} (hsized : settings.Sized) :
    ∃ n, settings.defaultCapacity.positiveInteger? = some n := by
  obtain ⟨n, hpos, hle, hdefault⟩ := hsized.defaultCapacity
  exact ⟨n, Number.positiveInteger?_eq_some_iff.mpr
    ⟨hdefault, hpos, Nat.le_trans hle (by decide)⟩⟩

/-- The settings of an environment without any variable. -/
def standard : Settings where
  level := Log.Level.silent.name
  defaultCapacity := .ofNat 100
  initialCeiling := .ofNat 512
  growthStep := .ofNat 512
  label := Report.standardLabel

theorem load_unset : load (fun _ => none) = .ok standard := rfl

/-! ## All variables together -/

/-- What the texts of an environment say, with a standard value for each variable that is not
set. -/
def asRead (environment : Environment) : Settings where
  level := (environment .logLevel).elim Log.Level.silent.name Text.lowercase
  defaultCapacity := (environment .defaultCapacity).elim (.ofNat Condition.standardCapacity) .ofText
  initialCeiling := (environment .initialCeiling).elim (.ofNat standardBlock) .ofText
  growthStep := (environment .growthStep).elim (.ofNat standardBlock) .ofText
  label := (environment .reportLabel).getD Report.standardLabel

/-- The level of an environment is accepted exactly if it can be read. -/
theorem accepts_logLevel_iff {given : Option Text} :
    Variable.logLevel.Accepts given ↔
      ∃ level : Log.Level, given.elim Log.Level.silent.name Text.lowercase = level.name := by
  cases given with
  | none => exact iff_of_true nofun ⟨.silent, rfl⟩
  | some text => exact ⟨fun h => h text rfl, fun h _ htext => Option.some.inj htext ▸ h⟩

/-- **Settings are loaded exactly if every variable accepts its text**, and are what the texts
say. -/
theorem load_eq_ok_iff_accepts {environment : Environment} {settings : Settings} :
    load environment = .ok settings ↔
      (∀ name : Variable, name.Accepts (environment name)) ∧ settings = asRead environment := by
  simp only [load_eq_ok_iff, readLevel_eq_ok_iff, readSize_eq_ok_iff, readLabel_eq_ok_iff]
  constructor
  · rintro ⟨⟨level, hlevel, hname⟩, ⟨hcapacity, hcapacity'⟩, ⟨hceiling, hceiling'⟩,
      ⟨hstep, hstep'⟩, ⟨hlabel, hlabel'⟩⟩
    constructor
    · intro name
      cases name with
      | logLevel => exact accepts_logLevel_iff.mpr ⟨level, hlevel⟩
      | defaultCapacity => exact hcapacity
      | initialCeiling => exact hceiling
      | growthStep => exact hstep
      | reportLabel => exact hlabel
      | testRunner | deployment => exact fun _ _ => trivial
    · cases settings
      simp only [asRead, hcapacity', hceiling', hstep', hlabel', hlevel, ← hname]
  · rintro ⟨haccepts, rfl⟩
    obtain ⟨level, hlevel⟩ := accepts_logLevel_iff.mp (haccepts .logLevel)
    exact ⟨⟨level, hlevel, hlevel⟩, ⟨haccepts .defaultCapacity, rfl⟩,
      ⟨haccepts .initialCeiling, rfl⟩, ⟨haccepts .growthStep, rfl⟩, ⟨haccepts .reportLabel, rfl⟩⟩

/-! ### Issues -/

theorem issuesOf_readLevel (given : Option Text) :
    issuesOf .logLevel (readLevel given) = complaints .logLevel given := by
  cases given with
  | none => rfl
  | some text =>
    unfold readLevel
    dsimp only
    cases hnamed : Log.Level.ofName? text.lowercase <;>
      simp [complaints, problemsOf, issuesOf, hnamed]

theorem issuesOf_readSize {name : Variable}
    (hname : problemsOf name = fun text => sizeProblems (.ofText text)) (standard : Nat)
    (given : Option Text) : issuesOf name (readSize standard given) = complaints name given := by
  cases given with
  | none => rfl
  | some text =>
    rw [complaints, Option.elim_some, hname]
    unfold readSize
    dsimp only
    split
    · next hproblems => rw [hproblems]; rfl
    · rfl

theorem issuesOf_readLabel (given : Option Text) :
    issuesOf .reportLabel (readLabel given) = complaints .reportLabel given := by
  cases given with
  | none => rfl
  | some text =>
    rw [complaints, Option.elim_some, problemsOf]
    unfold readLabel
    dsimp only
    split
    · next hproblems => rw [hproblems]; rfl
    · rfl

/-- The issues of all variables, one variable after the other. -/
def allComplaints (environment : Environment) : List Issue :=
  Variable.all.flatMap fun name => complaints name (environment name)

/-- Variables that are not read have no issues. -/
theorem complaints_of_admits (name : Variable) (h : ∀ text, name.Admits text)
    (given : Option Text) : complaints name given = [] :=
  complaints_eq_nil_iff.mpr fun text _ => h text

/-- Settings are loaded, or the issues of all variables are listed. -/
theorem load_cases (environment : Environment) :
    (∃ settings, load environment = .ok settings) ∨
      load environment = .error (allComplaints environment) := by
  have htestRunner : complaints .testRunner (environment .testRunner) = [] :=
    complaints_of_admits .testRunner (fun _ => trivial) _
  have hdeployment : complaints .deployment (environment .deployment) = [] :=
    complaints_of_admits .deployment (fun _ => trivial) _
  have hissues : allComplaints environment =
      issuesOf .logLevel (readLevel (environment .logLevel))
        ++ issuesOf .defaultCapacity
          (readSize Condition.standardCapacity (environment .defaultCapacity))
        ++ issuesOf .initialCeiling (readSize standardBlock (environment .initialCeiling))
        ++ issuesOf .growthStep (readSize standardBlock (environment .growthStep))
        ++ issuesOf .reportLabel (readLabel (environment .reportLabel)) := by
    rw [issuesOf_readLevel, issuesOf_readSize rfl, issuesOf_readSize rfl, issuesOf_readSize rfl,
      issuesOf_readLabel]
    simp only [allComplaints, Variable.all, List.flatMap_cons, List.flatMap_nil, htestRunner,
      hdeployment, List.append_nil, List.append_assoc]
  rw [hissues]
  unfold load
  dsimp only
  split
  · exact .inl ⟨_, rfl⟩
  · exact .inr rfl

/-- An issue is about the variable it was found at. -/
theorem variableName_of_mem_complaints {name : Variable} {given : Option Text} {issue : Issue}
    (h : issue ∈ complaints name given) : issue.variableName = name := by
  obtain ⟨problem, -, rfl⟩ := List.mem_map.mp h
  rfl

/-- **Every variable is judged on its own.** Settings are loaded exactly if each variable accepts
its text, and are then what the texts say. Otherwise the issues are those of all variables, one
variable after the other; a variable has none exactly if it accepts its text, and an issue is
reported under the name of its variable. -/
theorem load_judges_each (environment : Environment) :
    (∀ settings, load environment = .ok settings ↔
      (∀ name : Variable, name.Accepts (environment name)) ∧ settings = asRead environment) ∧
    (∀ issues, load environment = .error issues ↔
      (∃ name : Variable, ¬ name.Accepts (environment name)) ∧
        issues = Variable.all.flatMap fun name => complaints name (environment name)) ∧
    ∀ (name : Variable) (given : Option Text),
      (complaints name given = [] ↔ name.Accepts given) ∧
        ∀ issue ∈ complaints name given, issue.describe.path = name.name := by
  refine ⟨fun settings => load_eq_ok_iff_accepts, fun issues => ?_, fun name given =>
    ⟨complaints_eq_nil_iff, fun issue hissue => ?_⟩⟩
  · constructor
    · intro herror
      rcases load_cases environment with ⟨settings, hload⟩ | hrejected
      · cases herror.symm.trans hload
      · refine ⟨?_, Except.error.inj (herror.symm.trans hrejected)⟩
        rw [← Classical.not_forall]
        intro haccepts
        cases herror.symm.trans (load_eq_ok_iff_accepts.mpr ⟨haccepts, rfl⟩)
    · rintro ⟨⟨name, hname⟩, rfl⟩
      rcases load_cases environment with ⟨settings, hload⟩ | hrejected
      · exact absurd ((load_eq_ok_iff_accepts.mp hload).1 name) hname
      · exact hrejected
  · rw [Issue.describe, variableName_of_mem_complaints hissue]

/-- A level in capitals passes, and two variables that do not are reported together, one of them
with two issues. -/
example :
    load (fun
      | .logLevel => some "DEBUG"
      | .growthStep => some "-1.5"
      | .reportLabel => some ""
      | _ => none) =
      .error [⟨.growthStep, .notAnInteger⟩, ⟨.growthStep, .tooSmall⟩, ⟨.reportLabel, .emptyLabel⟩,
        ⟨.reportLabel, .labelAlphabet⟩] := by decide +kernel

end Settings

end Probing
