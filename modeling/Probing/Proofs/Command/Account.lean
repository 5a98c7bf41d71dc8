import Probing.Proofs.Command.ExitCode
import Probing.Proofs.Report.Shape

/-!
# The account of a run

Everything a run reports is a function of the outcomes it has replayed: the code of the tool, the
exit status, the report and the slots of the map. How it came to them, and which outcomes it was
given beyond them, makes no difference.

## Main definitions

* `Command.account`: what is reported on a history of outcomes

## Main results

* `Command.run_account`: a run gives the account of the outcomes up to its stop
-/

namespace Probing

/-! ## What a run starts from -/

/-- A condition that was read waits for a number of outcomes that can be counted up to. -/
theorem Condition.parse_expect {defaultCapacity : Number} {text : Text} {condition : Condition}
    (h : parse defaultCapacity text = .ok condition) :
    ∃ expect, condition.expect = .ofNat expect ∧ 0 < expect ∧ expect ≤ Number.maxCount := by
  obtain ⟨phrase, -, rfl⟩ := parse_sound h
  exact ⟨phrase.count.value, rfl, phrase.count.value_pos, phrase.count.value_le⟩

/-- The map of a new tracker is made from the request of its condition and nothing else. -/
theorem Tracker.map_of_create {condition condition' : Condition} {storage : Storage}
    {tracker tracker' : Tracker} (hcreate : Tracker.create condition storage = .ok tracker)
    (hcreate' : Tracker.create condition' storage = .ok tracker')
    (hmap : condition.report.map = condition'.report.map) : tracker.map = tracker'.map := by
  rw [create_congr hmap storage, hcreate'] at hcreate
  rw [← Except.ok.inj hcreate]

namespace Command

/-! ## Accounts -/

/-- What is reported on a history of outcomes by a run whose map was `map` before the first of
them. -/
def account (settings : Settings) (request : RunRequest) (condition : Condition) (expect : Nat)
    (map : Option OutcomeMap) (history : List Outcome) : ProbeReport :=
  let map := map.map fun map => map.recordEach history
  { toolExitCode := .ofNat (if .success ∈ history then 0 else 1)
    exitStatus := Tracker.statusFor condition (condition.MetBy expect history)
    report := Report.line settings.label request.forceReport
      (.ofHistory condition expect (map.map OutcomeMap.render) history)
    debugMap :=
      if request.debugMap then
        some ((map.map OutcomeMap.renderSlots).getD "(no outcome map requested)")
      else none }

variable {settings : Settings} {request : RunRequest} {condition : Condition} {expect : Nat}
  {outcomes : List Outcome} {count : Option Nat}

theorem debugMapOf_eq (tracker : Tracker) :
    debugMapOf tracker =
      (tracker.map.map OutcomeMap.renderSlots).getD "(no outcome map requested)" := by
  unfold debugMapOf
  cases tracker.map <;> rfl

/-- The report on a tracker that has recorded a history is the account of that history. -/
theorem probeReport_eq_account {map : Option OutcomeMap} {history : List Outcome}
    {tracker : Tracker} {summary : Session.Summary}
    (hrecount : Tracker.Recount condition expect history tracker)
    (hmap : tracker.map = map.map fun map => map.recordEach history)
    (hreceived : summary.received = history.count .success) :
    probeReport settings request tracker summary =
      account settings request condition expect map history := by
  unfold probeReport account
  rw [debugMapOf_eq, hrecount.snapshot_eq, hrecount.status_eq, Session.toolExitCode, hreceived,
    hmap]
  simp only [List.count_pos_iff]

/-- **A run gives the account of the outcomes up to its stop.** Its session has transmitted just
those, and gives the reason that fits. -/
theorem run_account (h : request.Accepted settings condition outcomes count)
    (hexpect : condition.expect = .ofNat expect) (hpos : 0 < expect) {tracker : Tracker}
    (hcreate : Tracker.create condition (storageOf settings) = .ok tracker) :
    ∃ stop reason entries,
      Session.StopsAt condition expect outcomes (Session.bound count outcomes.length) stop ∧
      (Session.replay tracker request.count outcomes).result =
        .finished ⟨stop, (outcomes.take stop).count .success, reason⟩ ∧
      reason = Session.reasonFor request.count
        (decide (condition.MetBy expect (outcomes.take stop))) stop ∧
      run settings request = .ok ⟨.probeReport
        (account settings request condition expect tracker.map (outcomes.take stop)), entries⟩ := by
  obtain ⟨stop, hstop, htracker, hrecount, hresult⟩ :=
    Session.replay_course hexpect hpos (.create hpos hcreate)
      (.create Allocator.standard_steady hcreate) count outcomes
  obtain ⟨entries, hrun⟩ := run_of_finished h hcreate hresult
  have hmap := congrArg Tracker.map htracker
  rw [Tracker.map_recordAll] at hmap
  rw [probeReport_eq_account hrecount hmap rfl] at hrun
  rw [hrecount.met_eq, ← h.count_eq] at hresult
  exact ⟨stop, _, entries, hstop, hresult, rfl, hrun⟩

end Command

end Probing
