import Probing.Proofs.Command.Account
import Probing.Proofs.Command.Replay
import Probing.Proofs.Condition.Description

/-!
# Runs with the same description

A run makes no use of what the description of its condition leaves out. Two conditions with the
same description therefore lead to the same result, whatever they are written like: they are met by
the same histories, they ask for the same map, and they show the same fields. A report that is
forced is the exception, since then the label counts even when there is no field.

## Main results

* `Condition.parse_plain`: what was read is plain enough to be described
* `Command.account_eq_of_alike`: conditions that are alike give the same account of a history
* `Command.run_eq_of_describe_eq`: runs with the same description have the same result
-/

namespace Probing

/-! ## Conditions that were read -/

/-- **A condition that was read is plain**, if the standard capacity can be counted up to. -/
theorem Condition.parse_plain {defaultCapacity : Number} {text : Text} {condition : Condition}
    (hdefault : ∃ n, defaultCapacity.positiveInteger? = some n)
    (h : parse defaultCapacity text = .ok condition) : condition.Plain where
  expect := by
    obtain ⟨expect, hexpect, -, hle⟩ := parse_expect h
    exact ⟨expect, hle, hexpect⟩
  map := by
    intro request hmap
    obtain ⟨_, hrealizable⟩ := parse_realizable hdefault h
    obtain ⟨capacity, hcapacity⟩ := hrealizable.capacity request hmap
    obtain ⟨hmax, -, hle⟩ := Number.positiveInteger?_eq_some_iff.mp hcapacity
    obtain ⟨success, failure, hglyphs⟩ := parse_glyphs h hmap
    exact ⟨capacity, hle, success, failure, by rw [← hmax, ← hglyphs]⟩

/-! ## Conditions that are alike -/

section Alike

variable {condition condition' : Condition} {expect : Nat} {history outcomes : List Outcome}

theorem Condition.Alike.metBy_iff (h : condition.Alike condition') :
    condition.MetBy expect history ↔ condition'.MetBy expect history := by
  unfold MetBy
  rw [h.location_eq, h.counting_eq]

theorem Session.StopsAt.of_alike {bound stop : Nat}
    (hstop : StopsAt condition expect outcomes bound stop) (h : condition.Alike condition') :
    StopsAt condition' expect outcomes bound stop :=
  hstop.congr fun _ _ => h.metBy_iff.symm

theorem Tracker.statusFor_eq_of_alike (h : condition.Alike condition') :
    statusFor condition (condition.MetBy expect history) =
      statusFor condition' (condition'.MetBy expect history) := by
  simp only [statusFor, h.report.exitStatus_eq, h.metBy_iff]

/-- Conditions that are alike report the same line on a history, unless it is forced. -/
theorem Report.line_eq_of_alike (h : condition.Alike condition') (label : Text)
    (map : Option Text) :
    line label false (.ofHistory condition expect map history) =
      line label false (.ofHistory condition' expect map history) := by
  refine line_congr h.report.hasFields_eq ?_ ?_
  · unfold fields Tracker.Snapshot.ofHistory
    simp only [h.report.showState_eq, h.report.showSuccesses_eq, h.report.showFailures_eq,
      h.metBy_iff]
  · intro hshown
    have hfields : condition.report.hasFields = true := hshown.resolve_left Bool.false_ne_true
    have hsilent := h.report.silent_eq
    rw [← h.report.hasFields_eq, hfields, Bool.true_and, Bool.true_and] at hsilent
    unfold heading Tracker.Snapshot.ofHistory
    dsimp only
    rw [hsilent]

/-- **Conditions that are alike give the same account** of a history, unless a report is forced. -/
theorem Command.account_eq_of_alike (h : condition.Alike condition') (settings : Settings)
    {request : RunRequest} (hforce : request.forceReport = false) (map : Option OutcomeMap) :
    account settings request condition expect map history =
      account settings request condition' expect map history := by
  unfold account
  dsimp only
  rw [Tracker.statusFor_eq_of_alike h, hforce, Report.line_eq_of_alike h]

end Alike

/-! ## Runs -/

namespace Command

variable {settings : Settings} {request : RunRequest} {condition condition' : Condition}
  {outcomes : List Outcome} {count : Option Nat} {text : Text}

/-- The arguments of a run with another condition. -/
theorem RunRequest.Accepted.withCondition (h : request.Accepted settings condition outcomes count)
    (hparse : Condition.parse settings.defaultCapacity text = .ok condition') :
    RunRequest.Accepted { request with condition := text } settings condition' outcomes count where
  condition_eq := hparse
  outcomes_eq := h.outcomes_eq
  count_eq := h.count_eq
  count_range := h.count_range

/-- Runs of conditions that are alike have the same report. -/
theorem run_eq_of_alike (hsized : settings.Sized)
    (h : request.Accepted settings condition outcomes count) (hforce : request.forceReport = false)
    (hparse : Condition.parse settings.defaultCapacity text = .ok condition')
    (halike : condition.Alike condition') :
    ∃ report entries entries', run settings request = .ok ⟨.probeReport report, entries⟩ ∧
      run settings { request with condition := text } = .ok ⟨.probeReport report, entries'⟩ := by
  have h' := h.withCondition hparse
  obtain ⟨expect, tracker, hrealizable, hcreate, -⟩ := h.exists_tracker hsized
  obtain ⟨expect', tracker', hrealizable', hcreate', -⟩ := h'.exists_tracker hsized
  obtain rfl : expect = expect' := Number.ofNat_inj.mp
    (hrealizable.expect_eq.symm.trans (halike.expect_eq.trans hrealizable'.expect_eq))
  have hmap := Tracker.map_of_create hcreate hcreate' halike.report.map_eq
  obtain ⟨stop, _, entries, hstop, -, -, hrun⟩ :=
    run_account h hrealizable.expect_eq hrealizable.expect_pos hcreate
  obtain ⟨stop', _, entries', hstop', -, -, hrun'⟩ :=
    run_account h' hrealizable'.expect_eq hrealizable'.expect_pos hcreate'
  obtain rfl := (hstop.of_alike halike).unique hstop'
  rw [account_eq_of_alike halike settings hforce, hmap] at hrun
  exact ⟨_, entries, entries', hrun, hrun'⟩

/-- A pattern or a count that is malformed fails with every condition in the same way. -/
theorem run_eq_of_rejected (h : request.Rejected settings)
    (hcondition : Condition.parse settings.defaultCapacity request.condition = .ok condition)
    (hparse : Condition.parse settings.defaultCapacity text = .ok condition') :
    ∃ ending, run settings request = .ok ending ∧
      run settings { request with condition := text } = .ok ending := by
  unfold run
  simp only [hcondition, hparse]
  cases houtcomes : Outcome.Pattern.read request.outcomes with
  | error issues => exact ⟨_, rfl, rfl⟩
  | ok outcomes =>
    cases hcount : invalidCount? request.count with
    | some count => exact ⟨_, rfl, rfl⟩
    | none =>
      rcases h with ⟨defect, hdefect⟩ | ⟨issues, hissues⟩ | ⟨given, hgiven, hrange⟩
      · rw [hcondition] at hdefect
        cases hdefect
      · rw [houtcomes] at hissues
        cases hissues
      · rw [invalidCount?_eq_some_iff.mpr ⟨hgiven, hrange⟩] at hcount
        cases hcount

/-- **Two conditions with the same description behave the same.** With settings from an environment
a run has the same result with either of them, whatever pattern and count it is given, and whether
or not the slots of the map are shown. Only the report must not be forced. -/
theorem run_eq_of_describe_eq {environment : Environment}
    (hload : Settings.load environment = .ok settings) {text text' : Text}
    (hparse : Condition.parse settings.defaultCapacity text = .ok condition)
    (hparse' : Condition.parse settings.defaultCapacity text' = .ok condition')
    (hdescribe : condition.describe = condition'.describe) (outcomes : Text)
    (count : Option Number) (debugMap : Bool) :
    ∃ ending ending', run settings { condition := text, outcomes, count, debugMap } = .ok ending ∧
      run settings { condition := text', outcomes, count, debugMap } = .ok ending' ∧
      ending.result = ending'.result := by
  have hsized := Settings.load_sized hload
  have hdefault := hsized.exists_defaultCapacity
  have halike := (Condition.describe_eq_iff (Condition.parse_plain hdefault hparse)
    (Condition.parse_plain hdefault hparse')).mp hdescribe
  let request : RunRequest := { condition := text, outcomes, count, debugMap }
  rcases request.rejected_or_accepted settings with
    hrejected | ⟨found, replayed, limit, haccepted⟩
  · obtain ⟨ending, hrun, hrun'⟩ := run_eq_of_rejected hrejected hparse hparse'
    exact ⟨ending, ending, hrun, hrun', rfl⟩
  · obtain rfl := Except.ok.inj (haccepted.condition_eq.symm.trans hparse)
    obtain ⟨report, entries, entries', hrun, hrun'⟩ :=
      run_eq_of_alike hsized haccepted rfl hparse' halike
    exact ⟨_, _, hrun, hrun', rfl⟩

/-- A leading zero, the order of options and a sign that changes nothing make no difference, even
when the glyphs of the map are units that its line is made of. -/
theorem run_eq_of_describe_eq_quote_glyph :
    let request (text : Text) : RunRequest :=
      { condition := text, outcomes := "+-+", count := some (.ofNat 3), debugMap := true }
    ∃ settings condition condition', Settings.load (fun _ => none) = .ok settings ∧
      Condition.parse settings.defaultCapacity "2:nm(7:',)x" = .ok condition ∧
      Condition.parse settings.defaultCapacity "02:xm(7:',)-nx" = .ok condition' ∧
      condition.describe = condition'.describe ∧
      ∃ ending ending', run settings (request "2:nm(7:',)x") = .ok ending ∧
        run settings (request "02:xm(7:',)-nx") = .ok ending' ∧
        ending.result = ending'.result := by
  intro request
  let condition (source : Text) : Condition :=
    { source, expect := .ofNat 2, counting := .success, location := .cumulative
      report :=
        { exitStatus := true
          showFailures := true
          map := some ⟨.ofNat 7, [unit '\''], [unit ',']⟩ } }
  have hparse : Condition.parse (.ofNat 100) "2:nm(7:',)x" = .ok (condition "2:nm(7:',)x") := by
    decide +kernel
  have hparse' : Condition.parse (.ofNat 100) "02:xm(7:',)-nx" =
      .ok (condition "02:xm(7:',)-nx") := by
    decide +kernel
  exact ⟨.standard, _, _, Settings.load_unset, hparse, hparse', rfl,
    run_eq_of_describe_eq Settings.load_unset hparse hparse' rfl "+-+" (some (.ofNat 3)) true⟩

end Command

end Probing
