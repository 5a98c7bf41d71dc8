import Probing.Proofs.Session.Course
import Probing.Proofs.Tracker.Erasure

/-!
# Sessions on a used tracker

A session counts its probes from zero, while its tracker goes on with the totals of everything it
has recorded before. The two fall into step only if the tracker has recorded nothing, or nothing but
the outcome the session begins with: its first update then says one probe, or nothing new. Any other
session is refused at its first probe and leaves no trace.

## Main definitions

* `Tracker.Used`: the trackers that updates lead to, with the outcomes recorded on the way
* `Session.firstTotals`: what a session tells its tracker first
* `Session.KeptInStep`: a session ended regularly, its tracker having recorded what it replayed

## Main results

* `Tracker.Used.totals`, `Tracker.Used.unmet`: what a used tracker knows of the outcomes recorded
* `Session.used_replayFrom`: a session is a run of updates
* `Session.replayFrom_inStep`: a session in step with its tracker stays in step
* `Session.replay_used`: a session on a used tracker is refused at once or kept in step
-/

namespace Probing

/-! ## Used trackers -/

namespace Tracker

/-- The trackers that updates with any totals lead to, with the outcomes recorded on the way, while
the source of slots may change and never fails. Sessions are runs of such updates. -/
inductive Used : Tracker → List Outcome → Prop
  | create {condition : Condition} {storage : Storage} {tracker : Tracker} :
      create condition storage = .ok tracker → Used tracker []
  | withSource {tracker : Tracker} {history : List Outcome} (source : Allocator) :
      Used tracker history → Used (tracker.withSource source) history
  | update {tracker : Tracker} {history : List Outcome} (counters : Counters) :
      tracker.Steady → Used tracker history →
      Used (tracker.update counters).tracker
        (history ++ (tracker.update counters).answer.outcome?.toList)

variable {tracker : Tracker} {history : List Outcome}

/-- An update in a run without failures records the outcome it answers with, if any, and does
nothing else. -/
theorem update_recorded (h : tracker.Steady) (counters : Counters) :
    (∃ outcome, (tracker.update counters).answer.outcome? = some outcome ∧
      tracker.update counters = tracker.record outcome) ∨
    ((tracker.update counters).answer.outcome? = none ∧
      (tracker.update counters).tracker = tracker) := by
  rcases update_cases tracker counters with ⟨outcome, -, hupdate⟩ | ⟨-, htracker, hanswer⟩
  · obtain ⟨satisfied, newlyMet, hrecorded⟩ := record_answer h outcome
    refine .inl ⟨outcome, ?_, hupdate⟩
    rw [hupdate, hrecorded]
    rfl
  · refine .inr ⟨?_, htracker⟩
    rcases hanswer with hanswer | hanswer <;> rw [hanswer] <;> rfl

theorem Steady.update (h : tracker.Steady) (counters : Counters) :
    (tracker.update counters).tracker.Steady := by
  rcases update_recorded h counters with ⟨outcome, -, hupdate⟩ | ⟨-, htracker⟩
  · rw [hupdate]
    exact h.record outcome
  · rwa [htracker]

/-- The totals of a history go on with those of one more outcome. -/
theorem count_totals (h : tracker.transmitted = history.length ∧
      tracker.received = history.count .success) (outcome : Outcome) :
    (tracker.count outcome).transmitted = (history ++ [outcome]).length ∧
      (tracker.count outcome).received = (history ++ [outcome]).count .success := by
  cases outcome <;> simp [count, h.1, h.2]

/-- **A used tracker has the totals of the outcomes recorded.** -/
theorem Used.totals (h : Used tracker history) :
    tracker.transmitted = history.length ∧ tracker.received = history.count .success := by
  induction h with
  | create hcreate =>
    obtain ⟨map, rfl, -⟩ := eq_of_create hcreate
    exact ⟨rfl, rfl⟩
  | withSource source _ ih => exact ih
  | @update tracker history counters hsteady _ ih =>
    rcases update_recorded hsteady counters with ⟨outcome, houtcome, hupdate⟩ | ⟨hnone, htracker⟩
    · obtain ⟨htransmitted, hreceived⟩ := record_totals tracker outcome
      rw [houtcome, hupdate, htransmitted, hreceived]
      exact count_totals ih outcome
    · rw [hnone, htracker]
      simpa using ih

/-- A condition is not met before the first record, whatever it waits for. -/
theorem Used.unmet (h : Used tracker []) : tracker.met = false := by
  generalize hempty : ([] : List Outcome) = history at h
  induction h with
  | create hcreate =>
    obtain ⟨map, rfl, -⟩ := eq_of_create hcreate
    rfl
  | withSource source _ ih => exact ih hempty
  | @update tracker history counters hsteady _ ih =>
    obtain ⟨hbefore, hlist⟩ := List.append_eq_nil_iff.mp hempty.symm
    rcases update_recorded hsteady counters with ⟨outcome, houtcome, -⟩ | ⟨-, htracker⟩
    · rw [houtcome] at hlist
      cases hlist
    · rw [htracker]
      exact ih hbefore.symm

/-- A record is an update with the totals of one more probe. -/
theorem Used.record (h : Used tracker history) (hsteady : tracker.Steady) (outcome : Outcome) :
    Used (tracker.record outcome).tracker (history ++ [outcome]) := by
  have hupdate : tracker.update (tracker.nextCounters outcome) = tracker.record outcome := by
    cases outcome <;> exact update_of_moved ⟨by simp, by simp⟩
  obtain ⟨satisfied, newlyMet, hanswer⟩ := record_answer hsteady outcome
  have hused := h.update (tracker.nextCounters outcome) hsteady
  rwa [hupdate, hanswer] at hused

theorem Used.recordAll (h : Used tracker history) (hsteady : tracker.Steady)
    (outcomes : List Outcome) :
    Used (tracker.recordAll outcomes) (history ++ outcomes) := by
  induction outcomes generalizing tracker history with
  | nil => rwa [List.append_nil]
  | cons outcome rest ih =>
    rw [List.append_cons]
    exact ih (h.record hsteady outcome) (hsteady.record outcome)

end Tracker

namespace Session

open Tracker (Used)

variable {tracker : Tracker} {history : List Outcome} {limit : Option Number} {outcome : Outcome}
  {rest : List Outcome}

/-! ## Sessions are runs of updates -/

/-- **A session is a run of updates**, whatever its totals and its limit: it leaves a used tracker
used, with the outcomes it recorded behind those recorded before. -/
theorem used_replayFrom (limit : Option Number) (outcomes : List Outcome) :
    ∀ {tracker : Tracker} {history : List Outcome} (events : Array Event)
      (transmitted received : Nat), Used tracker history → tracker.Steady →
      ∃ recorded, Used (replayFrom limit tracker events transmitted received outcomes).tracker
        (history ++ recorded) := by
  induction outcomes with
  | nil =>
    intro tracker history events transmitted received h hsteady
    exact ⟨[], by rwa [List.append_nil]⟩
  | cons outcome rest ih =>
    intro tracker history events transmitted received h hsteady
    rw [replayFrom]
    split
    · exact ⟨[], by rwa [List.append_nil]⟩
    · dsimp only
      have hused := h.update
        ⟨.ofNat (transmitted + 1), .ofNat (if outcome = .success then received + 1 else received)⟩
        hsteady
      split
      · exact ⟨_, hused⟩
      · exact ⟨_, hused⟩
      · split
        · exact ⟨_, hused⟩
        · obtain ⟨recorded, hrest⟩ := ih _ _ _ hused (hsteady.update _)
          rw [List.append_assoc] at hrest
          exact ⟨_, hrest⟩

/-! ## The first probe -/

/-- What a session tells its tracker after its first probe. -/
def firstTotals (outcome : Outcome) : Counters :=
  ⟨.ofNat 1, .ofNat ([outcome].count .success)⟩

/-- A session that may replay one outcome replays the first. -/
theorem limitReached_zero (h : ∀ count, limit = some count → (Number.ofNat 1).ble count = true) :
    limitReached limit 0 = false := by
  cases limit with
  | none => rfl
  | some count =>
    have hcount := h count rfl
    cases count with
    | nan => rfl
    | infinite negative => simpa [Number.ofNat, Number.ble, limitReached] using hcount
    | finite q =>
      have hone : (1 : Rat) ≤ q := by simpa [Number.ofNat, Number.ble] using hcount
      have hzero : ¬ q ≤ 0 := by grind
      simpa [limitReached, Number.ofNat, Number.ble] using hzero

theorem firstTotals_eq (outcome : Outcome) :
    firstTotals outcome = ⟨.ofNat (0 + 1), .ofNat (if outcome = .success then 0 + 1 else 0)⟩ := by
  cases outcome <;> rfl

/-- A first update that is rejected ends the session at once. -/
theorem replay_of_violation (hlimit : limitReached limit 0 = false)
    {deltaSuccess deltaFailure : Number}
    (h : (tracker.update (firstTotals outcome)).answer = .violation deltaSuccess deltaFailure)
    (rest : List Outcome) :
    replay tracker limit (outcome :: rest) =
      { tracker := (tracker.update (firstTotals outcome)).tracker
        result := .violation deltaSuccess deltaFailure
        events := ((tracker.update (firstTotals outcome)).events.map Event.tracker).toArray } := by
  rw [replay, replayFrom, hlimit, if_neg Bool.false_ne_true]
  simp only [← firstTotals_eq, h, Array.empty_append]

/-- A first update that says nothing new ends the session if the condition is met already. -/
theorem replay_of_unchanged (hlimit : limitReached limit 0 = false)
    (h : tracker.update (firstTotals outcome) =
      { tracker, answer := .evaluated (.unchanged tracker.met) }) (rest : List Outcome) :
    ∃ events, replay tracker limit (outcome :: rest) =
      if tracker.met then
        finish tracker events ⟨1, [outcome].count .success, .conditionMet⟩
      else replayFrom limit tracker events 1 ([outcome].count .success) rest := by
  have hcount : (if outcome = .success then 0 + 1 else 0) = [outcome].count .success := by
    cases outcome <;> rfl
  rw [replay, replayFrom, hlimit, if_neg Bool.false_ne_true]
  simp only [← firstTotals_eq, h]
  rw [hcount]
  exact ⟨_, rfl⟩

/-- The first totals of a session move those of a used tracker by one probe only if it has recorded
nothing. -/
theorem eq_nil_of_movedTo (h : Used tracker history) {outcome' : Outcome}
    (hmoved : tracker.MovedTo (1 : Nat) ([outcome].count .success : Nat) outcome') :
    history = [] := by
  obtain ⟨htransmitted, -⟩ := h.totals
  refine List.length_eq_zero_iff.mp ?_
  cases outcome' <;> simp only [Tracker.MovedTo] at hmoved <;> omega

/-- They are those of a used tracker only if it has recorded the same outcome. -/
theorem eq_singleton_of_stayed (h : Used tracker history)
    (hstay : ((1 : Nat) : Int) = tracker.transmitted ∧
      (([outcome].count .success : Nat) : Int) = tracker.received) :
    history = [outcome] := by
  obtain ⟨htransmitted, hreceived⟩ := h.totals
  obtain ⟨recorded, rfl⟩ := List.length_eq_one_iff.mp (show history.length = 1 by omega)
  have hcount : [outcome].count .success = [recorded].count .success := by omega
  cases outcome <;> cases recorded <;> first | rfl | simp at hcount

/-! ## In step or refused -/

/-- A session ended regularly with at least one probe, and its tracker has recorded the outcomes
replayed and nothing else. -/
def KeptInStep (outcomes : List Outcome) (ending : Ending) : Prop :=
  ∃ stop reason, 0 < stop ∧ stop ≤ outcomes.length ∧
    ending.result = .finished ⟨stop, (outcomes.take stop).count .success, reason⟩ ∧
    Used ending.tracker (outcomes.take stop)

/-- **A session in step with its tracker stays in step.** It records what it replays, until it ends
regularly. -/
theorem replayFrom_inStep (h : Used tracker history) (hsteady : tracker.Steady)
    (hunmet : tracker.met = false) (limit : Option Number) (events : Array Event)
    (outcomes : List Outcome) :
    let ending :=
      replayFrom limit tracker events history.length (history.count .success) outcomes
    ∃ stop reason, stop ≤ outcomes.length ∧
      (stop = 0 → limitReached limit history.length = true ∨ outcomes = []) ∧
      ending.result = .finished
        ⟨history.length + stop, (history ++ outcomes.take stop).count .success, reason⟩ ∧
      Used ending.tracker (history ++ outcomes.take stop) := by
  intro ending
  obtain ⟨stop, hcourse⟩ := replayFrom_course limit outcomes events h.totals hsteady hunmet
  have hresult := hcourse.result_eq
  rw [← List.count_append] at hresult
  refine ⟨stop, _, hcourse.stop_le, ?_, hresult, ?_⟩
  · rintro rfl
    rcases hcourse.ends with hmet | hlimit | hnil
    · rw [hcourse.tracker_eq] at hmet
      exact absurd (hunmet.symm.trans hmet) Bool.false_ne_true
    · exact .inl hlimit
    · exact .inr (List.length_eq_zero_iff.mp hnil.symm)
  · have hused := h.recordAll hsteady (outcomes.take stop)
    rwa [← hcourse.tracker_eq] at hused

/-- A session on a tracker that has recorded nothing is in step with it. -/
theorem keptInStep_of_fresh (h : Used tracker []) (hsteady : tracker.Steady)
    (hlimit : limitReached limit 0 = false) :
    KeptInStep (outcome :: rest) (replay tracker limit (outcome :: rest)) := by
  obtain ⟨stop, reason, hle, hstart, hresult, hused⟩ :=
    replayFrom_inStep h hsteady h.unmet limit #[] (outcome :: rest)
  refine ⟨stop, reason, Nat.pos_of_ne_zero ?_, hle, ?_, hused⟩
  · intro hzero
    rcases hstart hzero with hreached | hnil
    · exact absurd (hlimit.symm.trans hreached) Bool.false_ne_true
    · cases hnil
  · rwa [List.length_nil, Nat.zero_add, List.nil_append] at hresult

/-- A session that begins with the one outcome its tracker has recorded is in step from its second
probe on. -/
theorem keptInStep_of_repeated (h : Used tracker [outcome]) (hsteady : tracker.Steady)
    (hlimit : limitReached limit 0 = false) :
    KeptInStep (outcome :: rest) (replay tracker limit (outcome :: rest)) := by
  obtain ⟨htransmitted, hreceived⟩ := h.totals
  have hunchanged : tracker.update (firstTotals outcome) =
      { tracker, answer := .evaluated (.unchanged tracker.met) } :=
    Tracker.update_of_unchanged (congrArg Nat.cast htransmitted.symm)
      (congrArg Nat.cast hreceived.symm)
  obtain ⟨events, hreplay⟩ := replay_of_unchanged hlimit hunchanged rest
  rw [hreplay]
  cases hmet : tracker.met with
  | true =>
    exact ⟨1, .conditionMet, Nat.one_pos, Nat.succ_le_succ (Nat.zero_le _), rfl, h⟩
  | false =>
    obtain ⟨stop, reason, hle, -, hresult, hused⟩ :=
      replayFrom_inStep h hsteady hmet limit events rest
    have htaken : (outcome :: rest).take (stop + 1) = [outcome] ++ rest.take stop := rfl
    refine ⟨stop + 1, reason, Nat.succ_pos stop, Nat.succ_le_succ hle, ?_, hused⟩
    rw [htaken, Nat.add_comm]
    exact hresult

/-- Any other session is refused at its first probe. -/
theorem replay_of_misfit (h : Used tracker history) (hlimit : limitReached limit 0 = false)
    (hfresh : history ≠ []) (hrepeated : history ≠ [outcome]) (rest : List Outcome) :
    ∃ deltaSuccess deltaFailure,
      (tracker.update (firstTotals outcome)).answer = .violation deltaSuccess deltaFailure ∧
      replay tracker limit (outcome :: rest) =
        { tracker
          result := .violation deltaSuccess deltaFailure
          events := ((tracker.update (firstTotals outcome)).events.map Event.tracker).toArray } := by
  obtain ⟨htracker, deltaSuccess, deltaFailure, hanswer⟩ :
      (tracker.update (firstTotals outcome)).tracker = tracker ∧
        ∃ deltaSuccess deltaFailure,
          (tracker.update (firstTotals outcome)).answer = .violation deltaSuccess deltaFailure :=
    Tracker.update_of_jumped (fun hstay => hrepeated (eq_singleton_of_stayed h hstay))
      (fun outcome' hmoved => hfresh (eq_nil_of_movedTo h hmoved))
  refine ⟨deltaSuccess, deltaFailure, hanswer, ?_⟩
  have hreplay := replay_of_violation hlimit hanswer rest
  rwa [htracker] at hreplay

/-- **A session on a used tracker is refused at once or kept in step.** It ends regularly exactly if
the tracker has recorded nothing, or nothing but the outcome the session begins with; then the
tracker has recorded the outcomes replayed, each of them once. Otherwise the first probe is
rejected, nothing else has happened, and the tracker is the same. -/
theorem replay_used (h : Used tracker history) (hsteady : tracker.Steady)
    (hlimit : ∀ count, limit = some count → (Number.ofNat 1).ble count = true)
    (outcome : Outcome) (rest : List Outcome) :
    let outcomes := outcome :: rest
    let ending := replay tracker limit outcomes
    let first := tracker.update (firstTotals outcome)
    ((∃ summary, ending.result = .finished summary) ↔ history = [] ∨ history = [outcome]) ∧
    ((∃ summary, ending.result = .finished summary) ∨
      ∃ deltaSuccess deltaFailure, ending.result = .violation deltaSuccess deltaFailure) ∧
    (∀ deltaSuccess deltaFailure, ending.result = .violation deltaSuccess deltaFailure →
      first.answer = .violation deltaSuccess deltaFailure ∧
        ending.events = (first.events.map Event.tracker).toArray ∧ ending.tracker = tracker) ∧
    ∀ summary, ending.result = .finished summary →
      ending.tracker.successes = summary.received ∧
        ending.tracker.failures = summary.transmitted - summary.received ∧
        (0 < summary.transmitted ∧ summary.transmitted ≤ outcomes.length) ∧
        Used ending.tracker (outcomes.take summary.transmitted) := by
  intro outcomes ending first
  have hzero := limitReached_zero hlimit
  by_cases hfits : history = [] ∨ history = [outcome]
  · have hkept : KeptInStep outcomes ending := by
      rcases hfits with rfl | rfl
      · exact keptInStep_of_fresh h hsteady hzero
      · exact keptInStep_of_repeated h hsteady hzero
    obtain ⟨stop, reason, hpos, hle, hresult, hused⟩ := hkept
    obtain ⟨htransmitted, hreceived⟩ := hused.totals
    rw [List.length_take_of_le hle] at htransmitted
    rw [hresult]
    refine ⟨iff_of_true ⟨_, rfl⟩ hfits, .inl ⟨_, rfl⟩, ?_, ?_⟩
    · intro deltaSuccess deltaFailure hviolation
      cases hviolation
    · intro summary hfinished
      obtain rfl := Result.finished.inj hfinished
      refine ⟨hreceived, ?_, ⟨hpos, hle⟩, hused⟩
      rw [Tracker.failures, htransmitted, hreceived]
  · obtain ⟨hfresh, hrepeated⟩ := not_or.mp hfits
    obtain ⟨deltaSuccess, deltaFailure, hanswer, hending⟩ :=
      replay_of_misfit h hzero hfresh hrepeated rest
    have hresult : ending.result = .violation deltaSuccess deltaFailure :=
      congrArg Ending.result hending
    have hnone : ∀ summary, ending.result ≠ .finished summary := by
      intro summary hfinished
      cases hresult.symm.trans hfinished
    refine ⟨iff_of_false (not_exists.mpr hnone) hfits, .inr ⟨_, _, hresult⟩, ?_,
      fun summary hfinished => absurd hfinished (hnone summary)⟩
    intro deltaSuccess' deltaFailure' hviolation
    refine ⟨hanswer.trans ?_, congrArg Ending.events hending, congrArg Ending.tracker hending⟩
    obtain ⟨rfl, rfl⟩ := Result.violation.inj (hresult.symm.trans hviolation)
    rfl

/-- A session that begins with the reply its tracker has recorded already counts it once. -/
theorem replay_used_repeated_reply :
    let condition : Condition :=
      { source := "3m", expect := .ofNat 3, counting := .success, location := .cumulative
        report := { map := some ⟨.ofNat 3, .standard⟩ } }
    ∃ fresh, Tracker.create condition {} = .ok fresh ∧
      let tracker := (fresh.record .success).tracker
      let ending := replay tracker (some (.ofNat 2)) [.success, .failure, .success]
      Used tracker [.success] ∧ tracker.Steady ∧ (Number.ofNat 1).ble (.ofNat 2) = true ∧
        ending.result = .finished ⟨2, 1, .countReached⟩ ∧
        ending.tracker.successes = 1 ∧ ending.tracker.failures = 1 := by
  intro condition
  refine ⟨_, rfl, ?_⟩
  intro tracker ending
  have hcreate : Tracker.create condition {} = .ok _ := rfl
  have hfresh := Tracker.Steady.create Allocator.standard_steady hcreate
  have hused : Used tracker [.success] := (Used.create hcreate).record hfresh .success
  have hsteady : tracker.Steady := hfresh.record .success
  have hlimit : ∀ count, some (Number.ofNat 2) = some count →
      (Number.ofNat 1).ble count = true := by
    rintro count ⟨⟩
    decide
  obtain ⟨-, -, -, hkept⟩ := replay_used hused hsteady hlimit .success [.failure, .success]
  have hresult : ending.result = .finished ⟨2, 1, .countReached⟩ := by
    decide +kernel +zetaReduce
  obtain ⟨hsuccesses, hfailures, -, -⟩ := hkept _ hresult
  exact ⟨hused, hsteady, by decide, hresult, hsuccesses, hfailures⟩

/-- After a loss a session that begins with a reply is refused: it tells one reply more and one loss
less. -/
example :
    let condition : Condition :=
      { source := "3", expect := .ofNat 3, counting := .success, location := .cumulative
        report := {} }
    ∃ fresh, Tracker.create condition {} = .ok fresh ∧
      (replay (fresh.record .failure).tracker none [.success]).result =
        .violation (.ofInt 1) (.ofInt (-1)) := by
  refine ⟨_, rfl, ?_⟩
  decide +kernel

end Session

end Probing
