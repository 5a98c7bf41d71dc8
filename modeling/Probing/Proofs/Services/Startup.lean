import Mathlib.Data.List.Induction
import Probing.Proofs.Settings.Loading
import Probing.Services

/-!
# Starting services

The services of a program are started, reset and registered in any order. Whatever came before, the
program is started exactly if its mode is registered, and then nothing is missing. A start whose
settings do not pass registers nothing, whether it is rejected or fails on the bootstrap logger that
would say so, and one that comes too late changes nothing. A first start keeps what was registered
before it and makes what is missing from the settings and the mode.

## Main definitions

* `Services.Change`: a start, a reset or a registration
* `Services.after`: the services after a sequence of changes
* `Services.Sound`: what holds of them at every moment
* `Services.rejectionLogger`: the logger that says that settings were rejected
* `Services.Chosen`: the settings that a first start works with
* `Services.Filled`: the services after a first start

## Main results

* `Services.start_cases`: the three ways a start can go
* `Services.after_sound`: services are sound after any changes
* `Services.bootstrap_after_append`: the bootstrap logger is kept once it has been made
* `Services.start_after`: what a start does after any changes
-/

namespace Probing.Services

/-! ## Changes -/

/-- Something that is done to the services of a program. Registered settings are some that an
environment could have given; a registered logger has one of the levels. -/
inductive Change where
  | start (given : Option Environment) (mode : Option Mode) (process : Environment)
  | reset
  | settings (settings : Settings)
    (loaded : ∃ environment, Settings.load environment = .ok settings)
  | terminator (terminator : Terminator)
  | logging (level : Log.Level)

/-- The services after a change. -/
def apply (services : Services) : Change → Services
  | .start given mode process => (services.start given mode process).1
  | .reset => services.reset
  | .settings settings _ => { services with settings := some settings }
  | .terminator terminator => { services with terminator := some terminator }
  | .logging level => { services with logging := some (.atLevel level) }

/-- The services after a sequence of changes, from nothing on. -/
def after (changes : List Change) : Services :=
  changes.foldl apply {}

theorem after_concat (changes : List Change) (change : Change) :
    after (changes ++ [change]) = (after changes).apply change :=
  List.foldl_concat ..

/-- A logger that is registered by the name of its level has that level. -/
theorem registerLogging_name (services : Services) (level : Log.Level) :
    services.registerLogging level.name = .ok (services.apply (.logging level)) := by
  have hthreshold : Log.threshold level.name = .ok (.atLevel level) := by
    rw [Log.threshold, Log.namedThreshold?, Log.Level.ofName?_name]
  rw [registerLogging, hthreshold]
  rfl

/-! ## What holds at every moment -/

/-- A program is started exactly if its mode is registered, and then nothing is missing. Its
settings name a level. -/
structure Sound (services : Services) : Prop where
  started_iff : services.started = true ↔ services.isRegistered .mode = true
  complete : services.started = true → ∀ service, services.isRegistered service = true
  level : ∀ settings, services.settings = some settings →
    ∃ level : Log.Level, settings.level = level.name

variable {services : Services}

theorem sound_reset (services : Services) : Sound services.reset where
  started_iff := iff_of_false nofun nofun
  complete := nofun
  level := nofun

/-- A registration besides that of the mode leaves services sound. -/
theorem Sound.register (h : Sound services) {registered : Services}
    (hmode : registered.mode = services.mode) (hstarted : registered.started = services.started)
    (hkept : ∀ service, services.isRegistered service = true →
      registered.isRegistered service = true)
    (hlevel : ∀ settings, registered.settings = some settings →
      ∃ level : Log.Level, settings.level = level.name) : Sound registered where
  started_iff := by
    have hiff := h.started_iff
    rwa [isRegistered, ← hmode, ← hstarted] at hiff
  complete := fun h' service => hkept service (h.complete (hstarted ▸ h') service)
  level := hlevel

/-! ## Rejections -/

/-- The logger that says that settings were rejected, made from the bootstrap logger. -/
def rejectionLogger (services : Services) (process : Environment) :
    Except Log.LevelError Log.Threshold :=
  (services.bootstrapLogger process).bind Log.Threshold.forComponent

/-- A rejection registers nothing. -/
theorem reject_registrations (services : Services) (process : Environment)
    (issues : List Settings.Issue) :
    { (services.reject process issues).1 with bootstrap := services.bootstrap } = services := by
  unfold reject
  cases services.bootstrapLogger process <;> rfl

theorem reject_bootstrap {threshold : Log.Threshold} (h : services.bootstrap = some threshold)
    (process : Environment) (issues : List Settings.Issue) :
    (services.reject process issues).1.bootstrap = some threshold := by
  have hlogger : services.bootstrapLogger process = .ok threshold := by
    rw [bootstrapLogger, h]
  rw [reject, hlogger]

/-- Settings are rejected exactly if there is a logger to say so. -/
theorem reject_answer (services : Services) (process : Environment)
    (issues : List Settings.Issue) :
    (services.reject process issues).2 =
      match services.rejectionLogger process with
      | .error reason => .withoutLogger reason
      | .ok _ => .rejected issues := by
  unfold reject rejectionLogger
  cases services.bootstrapLogger process with
  | error reason => rfl
  | ok threshold => rfl

theorem Sound.reject (h : Sound services) (process : Environment)
    (issues : List Settings.Issue) : Sound (services.reject process issues).1 := by
  unfold Services.reject
  cases services.bootstrapLogger process with
  | error reason => exact h
  | ok threshold =>
    refine h.register rfl rfl ?_ h.level
    intro service hregistered
    cases service <;> exact hregistered

/-! ## Starts -/

/-- The settings that a first start works with: the registered ones, or else those of its
environment. -/
def Chosen (services : Services) (environment : Environment) (settings : Settings) : Prop :=
  services.settings = some settings ∨
    services.settings = none ∧ Settings.load environment = .ok settings

/-- The services after a first start. What was registered is kept; a missing terminator is made to
fit the mode, and a missing logger has the level of the settings. -/
structure Filled (services : Services) (settings : Settings) (mode : Mode) (filled : Services) :
    Prop where
  settings_eq : filled.settings = some settings
  mode_eq : filled.mode = some mode
  terminator_eq : filled.terminator =
    some (services.terminator.getD (if mode = .test then .tellsCaller else .endsProcess))
  logging_eq : ∃ level : Log.Level, settings.level = level.name ∧
    filled.logging = some (services.logging.getD (.atLevel level))
  started : filled.started = true
  bootstrap_eq : filled.bootstrap = services.bootstrap

/-- Nothing is missing after a first start. -/
theorem Filled.sound {settings : Settings} {mode : Mode} {filled : Services}
    (h : Filled services settings mode filled) : Sound filled := by
  obtain ⟨level, hname, hlogging⟩ := h.logging_eq
  have hall : ∀ service, filled.isRegistered service = true := by
    intro service
    cases service with
    | settings => exact Option.isSome_of_eq_some h.settings_eq
    | mode => exact Option.isSome_of_eq_some h.mode_eq
    | terminator => exact Option.isSome_of_eq_some h.terminator_eq
    | logging => exact Option.isSome_of_eq_some hlogging
  refine ⟨iff_of_true h.started (hall .mode), fun _ => hall, ?_⟩
  intro settings' hsettings
  obtain rfl := Option.some.inj (h.settings_eq.symm.trans hsettings)
  exact ⟨level, hname⟩

theorem terminatorFor_eq (mode : Mode) :
    terminatorFor mode = if mode = .test then .tellsCaller else .endsProcess := by
  cases mode <;> rfl

/-- With settings that name a level nothing is left missing. -/
theorem complete_eq {settings : Settings} {level : Log.Level} (hname : settings.level = level.name)
    (mode : Mode) :
    services.complete settings mode =
      ({ services with
          mode := some mode
          terminator := some (services.terminator.getD (terminatorFor mode))
          logging := some (services.logging.getD (.atLevel level))
          started := true }, .ready) := by
  have hterminator : (services.terminator <|> some (terminatorFor mode)) =
      some (services.terminator.getD (terminatorFor mode)) := by
    cases services.terminator <;> rfl
  unfold complete
  rw [hterminator, hname]
  cases hlogging : services.logging with
  | none =>
    simp only [Option.isSome_none, registerLogging_name]
    rfl
  | some threshold => rfl

theorem start_of_started (h : services.started = true) (given : Option Environment)
    (mode : Option Mode) (process : Environment) :
    services.start given mode process = (services, .ready) :=
  if_pos h

/-- A start that is not too late works with the settings that were registered or loaded. -/
theorem start_of_chosen (h : services.started = false) {given : Option Environment}
    {process : Environment} {settings : Settings}
    (hchosen : Chosen services (given.getD process) settings) (mode : Option Mode) :
    services.start given mode process =
      { services with settings := some settings }.complete settings
        (mode.getD (detectMode (given.getD process))) := by
  have hnot : ¬ services.started = true := Bool.eq_false_iff.mp h
  unfold start
  rw [if_neg hnot]
  rcases hchosen with hregistered | ⟨hmissing, hload⟩
  · have hservices : { services with settings := some settings } = services := by
      rw [← hregistered]
    simp only [hregistered, hservices]
  · simp only [hmissing, hload]

theorem Chosen.level {environment : Environment} {settings : Settings}
    (hchosen : Chosen services environment settings) (h : Sound services) :
    ∃ level : Log.Level, settings.level = level.name := by
  rcases hchosen with hregistered | ⟨-, hload⟩
  · exact h.level settings hregistered
  · exact Settings.exists_level_of_load hload

/-- **The three ways a start can go**: it comes too late, its settings do not pass, or it fills in
what is missing. -/
theorem start_cases (h : Sound services) (given : Option Environment) (mode : Option Mode)
    (process : Environment) :
    (services.started = true ∧ services.start given mode process = (services, .ready)) ∨
    (services.started = false ∧ services.settings = none ∧
      ∃ issues, Settings.load (given.getD process) = .error issues ∧
        services.start given mode process = services.reject process issues) ∨
    (services.started = false ∧ ∃ settings filled,
      Chosen services (given.getD process) settings ∧
      services.start given mode process = (filled, .ready) ∧
      Filled services settings (mode.getD (detectMode (given.getD process))) filled) := by
  cases hstarted : services.started with
  | true => exact .inl ⟨rfl, start_of_started hstarted given mode process⟩
  | false =>
    right
    have hfirst : (∃ settings, Chosen services (given.getD process) settings) →
        ∃ settings filled, Chosen services (given.getD process) settings ∧
          services.start given mode process = (filled, .ready) ∧
          Filled services settings (mode.getD (detectMode (given.getD process))) filled := by
      rintro ⟨settings, hchosen⟩
      obtain ⟨level, hname⟩ := hchosen.level h
      have hstart :=
        (start_of_chosen hstarted hchosen mode).trans (complete_eq hname _)
      refine ⟨settings, _, hchosen, hstart, ?_⟩
      exact
        { settings_eq := rfl
          mode_eq := rfl
          terminator_eq := by rw [terminatorFor_eq]
          logging_eq := ⟨level, hname, rfl⟩
          started := rfl
          bootstrap_eq := rfl }
    cases hsettings : services.settings with
    | some settings => exact .inr ⟨rfl, hfirst ⟨settings, .inl hsettings⟩⟩
    | none =>
      cases hload : Settings.load (given.getD process) with
      | ok settings => exact .inr ⟨rfl, hfirst ⟨settings, .inr ⟨hsettings, hload⟩⟩⟩
      | error issues =>
        refine .inl ⟨rfl, rfl, issues, rfl, ?_⟩
        simp [start, hstarted, hsettings, hload]

/-- **One change leaves services sound.** -/
theorem Sound.apply (h : Sound services) (change : Change) : Sound (services.apply change) := by
  cases change with
  | start given mode process =>
    rw [Services.apply]
    rcases start_cases h given mode process with
      ⟨-, hstart⟩ | ⟨-, -, issues, -, hstart⟩ | ⟨-, settings, filled, -, hstart, hfilled⟩
    · rwa [hstart]
    · rw [hstart]
      exact h.reject process issues
    · rw [hstart]
      exact hfilled.sound
  | reset => exact sound_reset services
  | settings settings loaded =>
    obtain ⟨environment, hload⟩ := loaded
    refine h.register rfl rfl ?_ ?_
    · intro service hregistered
      cases service <;> first | rfl | exact hregistered
    · intro settings' hsettings
      obtain rfl := Option.some.inj hsettings
      exact Settings.exists_level_of_load hload
  | terminator terminator =>
    refine h.register rfl rfl ?_ h.level
    intro service hregistered
    cases service <;> first | rfl | exact hregistered
  | logging level =>
    refine h.register rfl rfl ?_ h.level
    intro service hregistered
    cases service <;> first | rfl | exact hregistered

/-- **Services are sound after any changes.** -/
theorem after_sound (changes : List Change) : Sound (after changes) := by
  induction changes using List.reverseRecOn with
  | nil => exact sound_reset {}
  | append_singleton changes change ih =>
    rw [after_concat]
    exact ih.apply change

/-- One change keeps the bootstrap logger. -/
theorem Sound.apply_bootstrap (h : Sound services) {threshold : Log.Threshold}
    (hmade : services.bootstrap = some threshold) (change : Change) :
    (services.apply change).bootstrap = some threshold := by
  cases change with
  | start given mode process =>
    rw [Services.apply]
    rcases start_cases h given mode process with
      ⟨-, hstart⟩ | ⟨-, -, issues, -, hstart⟩ | ⟨-, settings, filled, -, hstart, hfilled⟩
    · rw [hstart, hmade]
    · rw [hstart]
      exact reject_bootstrap hmade process issues
    · rw [hstart]
      exact hfilled.bootstrap_eq.trans hmade
  | reset | settings | terminator | logging => exact hmade

/-- **The bootstrap logger is kept once it has been made**, through all later changes. -/
theorem bootstrap_after_append (changes later : List Change) {threshold : Log.Threshold}
    (hmade : (after changes).bootstrap = some threshold) :
    (after (changes ++ later)).bootstrap = some threshold := by
  induction later using List.reverseRecOn with
  | nil => rwa [List.append_nil]
  | append_singleton later change ih =>
    rw [← List.append_assoc, after_concat]
    exact (after_sound _).apply_bootstrap ih change

/-- Settings that do not pass are not chosen. -/
theorem not_chosen (hsettings : services.settings = none) {environment : Environment}
    {issues : List Settings.Issue} (hload : Settings.load environment = .error issues) :
    ¬ ∃ settings, Chosen services environment settings := by
  rintro ⟨settings, hregistered | ⟨-, hpasses⟩⟩
  · cases hsettings.symm.trans hregistered
  · cases hload.symm.trans hpasses

/-- **What a start does after any changes.** The program is started exactly if its mode is
registered, and then nothing is missing. A start that comes too late returns and changes nothing,
whatever it is given. A first start is ready exactly if settings are registered or those of the
environment pass. Otherwise it is rejected with what is wrong with them, or it fails where the
bootstrap logger cannot say so; it then leaves the registrations as they were. A first start that is
ready keeps what was registered and fills in what is missing. -/
theorem start_after (changes : List Change) :
    ((after changes).started = true ↔ (after changes).isRegistered .mode = true) ∧
    ((after changes).started = true → ∀ service, (after changes).isRegistered service = true) ∧
    ∀ (given : Option Environment) (mode : Option Mode) (process : Environment),
      let environment := given.getD process
      let ending := (after changes).start given mode process
      (ending.2 = .ready ↔ (after changes).started = true ∨
        ∃ settings, Chosen (after changes) environment settings) ∧
      (∀ issues, ending.2 = .rejected issues ↔
        (after changes).started = false ∧ (after changes).settings = none ∧
          Settings.load environment = .error issues ∧
          ∃ threshold, (after changes).rejectionLogger process = .ok threshold) ∧
      (∀ reason, ending.2 = .withoutLogger reason ↔
        (after changes).started = false ∧ (after changes).settings = none ∧
          (∃ issues, Settings.load environment = .error issues) ∧
          (after changes).rejectionLogger process = .error reason) ∧
      (ending.2 ≠ .ready →
        { ending.1 with bootstrap := (after changes).bootstrap } = after changes) ∧
      ((after changes).started = true → ending = (after changes, .ready)) ∧
      ((after changes).started = false → ending.2 = .ready →
        ∃ settings, Chosen (after changes) environment settings ∧
          Filled (after changes) settings (mode.getD (detectMode environment)) ending.1) := by
  have hsound := after_sound changes
  refine ⟨hsound.started_iff, hsound.complete, fun given mode process => ?_⟩
  intro environment ending
  rcases start_cases hsound given mode process with
    ⟨hstarted, hstart⟩ | ⟨hstarted, hsettings, issues, hload, hstart⟩ |
      ⟨hstarted, settings, filled, hchosen, hstart, hfilled⟩
  · have hending : ending = (after changes, .ready) := hstart
    rw [hending, hstarted]
    simp
  · have hending : ending = (after changes).reject process issues := hstart
    have hfails : Settings.load environment = .error issues := hload
    have hkept := reject_registrations (after changes) process issues
    have hnone := not_chosen hsettings hfails
    rw [hending, reject_answer, hstarted, hsettings, hfails]
    cases hlogger : (after changes).rejectionLogger process with
    | error reason => simp [hkept, hnone]
    | ok threshold => simp [hkept, hnone]
  · have hending : ending = (filled, .ready) := hstart
    have hpasses : ∀ issues, ¬ ((after changes).settings = none ∧
        Settings.load environment = .error issues) :=
      fun issues h => not_chosen h.1 h.2 ⟨settings, hchosen⟩
    rw [hending, hstarted]
    refine ⟨iff_of_true rfl (.inr ⟨settings, hchosen⟩), fun issues => iff_of_false nofun ?_,
      fun reason => iff_of_false nofun ?_, fun h => absurd rfl h, nofun,
      fun _ _ => ⟨settings, hchosen, hfilled⟩⟩
    · rintro ⟨-, hnone, hfails, -⟩
      exact hpasses issues ⟨hnone, hfails⟩
    · rintro ⟨-, hnone, ⟨issues, hfails⟩, -⟩
      exact hpasses issues ⟨hnone, hfails⟩

/-- Settings that do not pass, in a process that first names a level that does not exist and then
one that does. The first start fails, the others are rejected: the bootstrap logger is kept. -/
example :
    let spoilt : Environment
      | .initialCeiling => some "many"
      | _ => none
    let process (level : Text) : Environment
      | .logLevel => some level
      | _ => none
    let first := start {} spoilt none (process "verbose")
    let second := first.1.start spoilt none (process "Warn")
    first.2 = .withoutLogger (.unknown "verbose") ∧
      second.1 = { bootstrap := some (.atLevel .warn) } ∧
      (second.1.reset.start spoilt none (process "verbose")).2 = second.2 := by decide +kernel

end Probing.Services
