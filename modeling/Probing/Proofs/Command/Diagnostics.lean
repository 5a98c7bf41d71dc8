import Probing.Proofs.Command.Replay

/-!
# Diagnostic settings

Some settings are there to look into a run: the log level, the sizes in which an outcome map asks
for its slots, whether its slots are shown and whether text is coloured. A script that reads the
standard output and the exit code cannot tell how they are set.

## Main definitions

* `Environment.AgreeBesideDiagnostics`, `RunRequest.AgreeBesideDiagnostics`: what two runs have in
  common when they differ in diagnostics only
* `Command.seen`: what a script sees of a result

## Main results

* `Command.run_diagnostics_unseen`: runs that differ in diagnostics only look the same to a script
-/

namespace Probing

/-! ## Settings -/

/-- A variable with which a run can be looked into. -/
def Variable.isDiagnostic : Variable → Bool
  | logLevel | initialCeiling | growthStep => true
  | defaultCapacity | reportLabel | testRunner | deployment => false

/-- Two environments that differ in diagnostic variables only. -/
def Environment.AgreeBesideDiagnostics (environment environment' : Environment) : Prop :=
  ∀ name : Variable, name.isDiagnostic = false → environment name = environment' name

namespace Command

/-! ## Runs -/

/-- Two requests that differ in diagnostics only. -/
def RunRequest.AgreeBesideDiagnostics (request request' : RunRequest) : Prop :=
  request' = { request with debugMap := request'.debugMap }

variable {settings settings' : Settings} {request request' : RunRequest} {condition : Condition}
  {outcomes : List Outcome} {count : Option Nat}

/-- Two trackers that have replayed the same outcomes as far as they had to agree on what they have
to show, if the map could be had in the size that was asked for. -/
theorem Replayed.agree {expect expect' stop stop' bound bound' : Nat} {tracker tracker' : Tracker}
    (h : Replayed condition expect outcomes count stop bound tracker)
    (h' : Replayed condition expect' outcomes count stop' bound' tracker')
    (hattainable : Attainable condition) :
    stop = stop' ∧ tracker.snapshot = tracker'.snapshot ∧ tracker.status = tracker'.status := by
  obtain rfl : expect = expect' :=
    Number.ofNat_inj.mp (h.realizable.expect_eq.symm.trans h'.realizable.expect_eq)
  obtain rfl := h.stopsAt.unique h'.stopsAt
  refine ⟨rfl, ?_, by rw [h.recount.status_eq, h'.recount.status_eq]⟩
  rw [h.snapshot_eq, h'.snapshot_eq]
  congr 1
  unfold shownMap
  cases hmap : condition.report.map with
  | none => rfl
  | some request =>
    have hbound := (h.bound_eq request hmap hattainable).symm.trans
      (h'.bound_eq request hmap hattainable)
    rw [Number.ofNat_inj.mp hbound]

/-- What a script sees of a result: the standard output and the exit code. -/
def seen (style : Style) (result : Result) : Text × Number :=
  ((result.streams style).stdout, result.exitCode)

theorem seen_probeReport (style : Style) (tracker : Tracker) (summary : Session.Summary) :
    seen style (.probeReport (probeReport settings request tracker summary)) =
      (Report.line settings.label request.forceReport tracker.snapshot,
        tracker.status.resolve (.ofNat (Session.toolExitCode summary))) := rfl

/-- Arguments are read in the same way when settings agree on the standard capacity. -/
theorem RunRequest.Accepted.transfer (h : request.Accepted settings condition outcomes count)
    (hrequest : request.AgreeBesideDiagnostics request')
    (hcapacity : settings.defaultCapacity = settings'.defaultCapacity) :
    request'.Accepted settings' condition outcomes count := by
  rw [hrequest]
  exact
    { condition_eq := hcapacity ▸ h.condition_eq
      outcomes_eq := h.outcomes_eq
      count_eq := h.count_eq
      count_range := h.count_range }

theorem RunRequest.Rejected.transfer (h : request.Rejected settings)
    (hrequest : request.AgreeBesideDiagnostics request')
    (hcapacity : settings.defaultCapacity = settings'.defaultCapacity) :
    request'.Rejected settings' := by
  rw [hrequest]
  unfold RunRequest.Rejected at h ⊢
  rwa [← hcapacity]

/-- **Diagnostics are not seen by a script.** Two runs that differ only in the log level, in the
sizes in which a map asks for its slots, in whether its slots are shown and in colour write the same
to the standard output and end with the same code. -/
theorem run_diagnostics_unseen {environment environment' : Environment}
    (hload : Settings.load environment = .ok settings)
    (hload' : Settings.load environment' = .ok settings')
    (henvironment : Environment.AgreeBesideDiagnostics environment environment')
    (hrequest : request.AgreeBesideDiagnostics request')
    (hattainable : ∀ condition,
      Condition.parse settings.defaultCapacity request.condition = .ok condition →
        Attainable condition)
    (style style' : Style) :
    ∃ ending ending', run settings request = .ok ending ∧ run settings' request' = .ok ending' ∧
      seen style ending.result = seen style' ending'.result := by
  have hvalues : settings.defaultCapacity = settings'.defaultCapacity ∧
      settings.label = settings'.label := by
    obtain ⟨-, hcapacity, -, -, hlabel⟩ := Settings.load_eq_ok_iff.mp hload
    obtain ⟨-, hcapacity', -, -, hlabel'⟩ := Settings.load_eq_ok_iff.mp hload'
    rw [henvironment .defaultCapacity rfl] at hcapacity
    rw [henvironment .reportLabel rfl] at hlabel
    exact ⟨Except.ok.inj (hcapacity.symm.trans hcapacity'),
      Except.ok.inj (hlabel.symm.trans hlabel')⟩
  obtain ⟨hcapacity, hlabel⟩ := hvalues
  rcases request.rejected_or_accepted settings with
    hrejected | ⟨condition, outcomes, count, haccepted⟩
  · obtain ⟨output, entries, hrun⟩ := run_of_rejected hrejected
    obtain ⟨output', entries', hrun'⟩ :=
      run_of_rejected (hrejected.transfer hrequest hcapacity)
    exact ⟨_, _, hrun, hrun', rfl⟩
  · obtain ⟨expect, stop, bound, tracker, summary, entries, hreplayed, hreceived, hrun⟩ :=
      run_replayed (Settings.load_sized hload) haccepted
    obtain ⟨expect', stop', bound', tracker', summary', entries', hreplayed', hreceived', hrun'⟩ :=
      run_replayed (Settings.load_sized hload') (haccepted.transfer hrequest hcapacity)
    refine ⟨_, _, hrun, hrun', ?_⟩
    obtain ⟨rfl, hsnapshot, hstatus⟩ :=
      hreplayed.agree hreplayed' (hattainable condition haccepted.condition_eq)
    have hforce : request'.forceReport = request.forceReport := by rw [hrequest]
    have htool : Session.toolExitCode summary = Session.toolExitCode summary' := by
      rw [Session.toolExitCode, Session.toolExitCode, hreceived, hreceived']
    rw [seen_probeReport, seen_probeReport, hlabel, hforce, hsnapshot, hstatus, htool]

/-- The script sees the same of a run that asks for one slot at a time, shows them and is coloured,
as of a run that asks for all of them at once. -/
theorem run_diagnostics_unseen_small_steps :
    let cautious : Environment
      | .initialCeiling | .growthStep => some "1"
      | _ => none
    ∃ settings settings', Settings.load (fun _ => none) = .ok settings ∧
      Settings.load cautious = .ok settings' ∧
      ∃ ending ending', run settings { condition := "9:m", outcomes := "+-+" } = .ok ending ∧
        run settings' { condition := "9:m", outcomes := "+-+", debugMap := true } = .ok ending' ∧
        seen .plain ending.result = seen .coloured ending'.result := by
  intro cautious
  have hload' : Settings.load cautious =
      .ok { Settings.standard with initialCeiling := .ofNat 1, growthStep := .ofNat 1 } := by decide
  refine ⟨.standard, _, Settings.load_unset, hload', ?_⟩
  let phrase : Condition.Phrase :=
    { negative := false
      count := .single (unit '9') (by decide) (by decide) (by decide)
      consecutive := false
      options := some [.map none] }
  have hparse : Condition.parse (.ofNat 100) "9:m" = .ok (phrase.condition (.ofNat 100)) :=
    Condition.parse_eq_ok_iff_read.mpr (Condition.read_written phrase)
  have hattainable : Attainable (phrase.condition (.ofNat 100)) := by
    intro request hrequest
    obtain rfl : ⟨.ofNat 100, .standard⟩ = request := Option.some.inj hrequest
    decide
  have hrequest : RunRequest.AgreeBesideDiagnostics { condition := "9:m", outcomes := "+-+" }
      { condition := "9:m", outcomes := "+-+", debugMap := true } := rfl
  refine run_diagnostics_unseen Settings.load_unset hload' ?_ hrequest ?_ .plain .coloured
  · intro name hname
    cases name <;> first | rfl | cases hname
  · intro condition hcondition
    obtain rfl := Except.ok.inj (hparse.symm.trans hcondition)
    exact hattainable

end Command

end Probing
