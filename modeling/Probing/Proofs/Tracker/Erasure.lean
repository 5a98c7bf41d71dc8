import Mathlib.Algebra.Group.Nat.Defs
import Probing.Proofs.Tracker.Records

/-!
# Updates that leave no trace

A tracker compares the totals it is told with its own. Totals that have not moved, and totals that
moved by anything but one probe, are answered as such and leave the tracker as it was, so that they
can be deleted from a run of updates: the other updates are answered the same, and the run ends in
the same state.

## Main definitions

* `Tracker.Reachable`: the trackers that runs of updates lead to
* `Tracker.repliesSince`, `Tracker.lossesSince`: what told totals add to those of a tracker
* `Tracker.View`: what can be read off a tracker
* `Tracker.Alike`: trackers that differ at most in the source of slots
* `Tracker.recordings`: the updates of a run that recorded an outcome, with their answers

## Main results

* `Tracker.receive_cases`: the three ways to answer told totals
* `Tracker.follow_recordings`: the run without the other updates
* `Tracker.reachable_no_trace`: unrecorded updates leave no trace
-/

namespace Probing

namespace Tracker

/-! ## Trackers up to their source of slots -/

/-- The tracker with another source of slots for its map. -/
def withSource (tracker : Tracker) (source : Allocator) : Tracker :=
  tracker.withMap (tracker.map.map fun map => map.withSource source)

theorem withSource_withSource (tracker : Tracker) (source source' : Allocator) :
    (tracker.withSource source).withSource source' = tracker.withSource source' := by
  cases hmap : tracker.map <;> simp [withSource, withMap, OutcomeMap.withSource, hmap]

theorem receive_eq (tracker : Tracker) (told : Told) :
    tracker.receive told =
      (tracker.withSource told.source).update (whole told.transmitted told.received) := rfl

/-- Two trackers that differ at most in the source of slots of their maps. -/
def Alike (tracker tracker' : Tracker) : Prop :=
  ∀ source, tracker.withSource source = tracker'.withSource source

theorem Alike.refl (tracker : Tracker) : tracker.Alike tracker := fun _ => rfl

theorem Alike.withSource {tracker tracker' : Tracker} (h : tracker.Alike tracker')
    (source : Allocator) : tracker.Alike (tracker'.withSource source) := by
  intro source'
  rw [withSource_withSource]
  exact h source'

/-- Trackers that are alike go on alike, since the source of slots is told with the totals. -/
theorem Alike.receive {tracker tracker' : Tracker} (h : tracker.Alike tracker') (told : Told) :
    tracker.receive told = tracker'.receive told := by
  rw [receive_eq, receive_eq, h told.source]

end Tracker

/-! ## Views -/

/-- What can be read off an outcome map: its figures, its contents and its slots. -/
structure OutcomeMap.View where
  capacity : Nat
  maxCapacity : Nat
  writePos : Nat
  hasWrapped : Bool
  enabled : Bool
  shown : Text
  slots : Text

/-- The present view of an outcome map. -/
def OutcomeMap.view (map : OutcomeMap) : OutcomeMap.View where
  capacity := map.capacity
  maxCapacity := map.maxCapacity
  writePos := map.writePos
  hasWrapped := map.hasWrapped
  enabled := map.enabled
  shown := map.render
  slots := map.renderSlots

namespace Tracker

/-- What can be read off a tracker. -/
structure View where
  snapshot : Snapshot
  streak : Nat
  status : ExitStatus
  map : Option OutcomeMap.View

/-- The present view of a tracker. -/
def view (tracker : Tracker) : View where
  snapshot := tracker.snapshot
  streak := tracker.streak
  status := tracker.status
  map := tracker.map.map OutcomeMap.view

/-- The source of slots is not seen. -/
theorem view_withSource (tracker : Tracker) (source : Allocator) :
    (tracker.withSource source).view = tracker.view := by
  obtain ⟨condition, map, transmitted, received, streak, met, status⟩ := tracker
  cases map <;> rfl

theorem Alike.view_eq {tracker tracker' : Tracker} (h : tracker.Alike tracker') :
    tracker.view = tracker'.view := by
  rw [← view_withSource tracker .standard, h .standard, view_withSource]

/-! ## The three answers -/

variable {tracker : Tracker}

/-- Told totals are one probe ahead, or the same, or neither. -/
theorem receive_cases (tracker : Tracker) (told : Told) :
    (∃ outcome, tracker.MovedTo told.transmitted told.received outcome ∧
      tracker.receive told = (tracker.withSource told.source).record outcome ∧
      (tracker.receive told).answer.outcome? = some outcome) ∨
    ((told.transmitted = tracker.transmitted ∧ told.received = tracker.received) ∧
      tracker.receive told =
        { tracker := tracker.withSource told.source
          answer := .evaluated (.unchanged tracker.met) }) ∨
    (¬ (told.transmitted = tracker.transmitted ∧ told.received = tracker.received) ∧
      (∀ outcome, ¬ tracker.MovedTo told.transmitted told.received outcome) ∧
      (tracker.receive told).tracker = tracker.withSource told.source ∧
      ∃ deltaSuccess deltaFailure,
        (tracker.receive told).answer = .violation deltaSuccess deltaFailure) := by
  rw [receive_eq]
  by_cases hmoved : ∃ outcome, tracker.MovedTo told.transmitted told.received outcome
  · obtain ⟨outcome, hmoved⟩ := hmoved
    have hupdate : (tracker.withSource told.source).update
        (whole told.transmitted told.received) = (tracker.withSource told.source).record outcome :=
      update_of_moved hmoved
    obtain ⟨satisfied, newlyMet, hanswer⟩ := record_answer (told.steady_withMap tracker) outcome
    refine .inl ⟨outcome, hmoved, hupdate, ?_⟩
    rw [hupdate]
    exact congrArg Answer.outcome? hanswer
  · right
    by_cases hstay : told.transmitted = tracker.transmitted ∧ told.received = tracker.received
    · exact .inl ⟨hstay, update_of_unchanged hstay.1 hstay.2⟩
    · exact .inr ⟨hstay, not_exists.mp hmoved, update_of_jumped hstay (not_exists.mp hmoved)⟩

/-- A tracker whose source of slots never fails rejects totals with the differences it computed. -/
theorem deltas_of_violation (hsteady : tracker.Steady) {counters : Counters}
    {deltaSuccess deltaFailure : Number}
    (h : (tracker.update counters).answer = .violation deltaSuccess deltaFailure) :
    deltaSuccess = tracker.deltaSuccess counters ∧
      deltaFailure = tracker.deltaFailure counters := by
  rcases update_cases tracker counters with
    ⟨outcome, -, hupdate⟩ | ⟨-, -, hunchanged | hviolation⟩
  · obtain ⟨satisfied, newlyMet, hanswer⟩ := record_answer hsteady outcome
    rw [hupdate, hanswer] at h
    cases h
  · cases hunchanged.symm.trans h
  · obtain ⟨hsuccess, hfailure⟩ := Answer.violation.inj (hviolation.symm.trans h)
    exact ⟨hsuccess.symm, hfailure.symm⟩

/-! ## Reachable trackers -/

/-- The trackers that runs of updates lead to, from a new tracker on. -/
inductive Reachable : Tracker → Prop
  | create {condition : Condition} {storage : Storage} {tracker : Tracker} :
      create condition storage = .ok tracker → Reachable tracker
  | receive {tracker : Tracker} (told : Told) :
      Reachable tracker → Reachable (tracker.receive told).tracker

/-- A reachable tracker has no more replies than probes. -/
theorem Reachable.received_le (h : Reachable tracker) :
    tracker.received ≤ tracker.transmitted := by
  induction h with
  | create hcreate =>
    obtain ⟨map, rfl, -⟩ := eq_of_create hcreate
    exact Nat.le_refl _
  | @receive tracker told _ ih =>
    rcases receive_cases tracker told with
      ⟨outcome, -, hrecord, -⟩ | ⟨-, hunchanged⟩ | ⟨-, -, htracker, -⟩
    · obtain ⟨htransmitted, hreceived⟩ := record_totals (tracker.withSource told.source) outcome
      rw [hrecord]
      refine (hreceived.trans_le ?_).trans_eq htransmitted.symm
      cases outcome with
      | success => exact Nat.succ_le_succ ih
      | failure => exact Nat.le_succ_of_le ih
    · rw [hunchanged]
      exact ih
    · rw [htracker]
      exact ih

/-! ## Differences -/

/-- What told totals add to the replies of a tracker. -/
def repliesSince (tracker : Tracker) (told : Told) : Int :=
  told.received - tracker.successes

/-- What told totals add to the losses of a tracker. -/
def lossesSince (tracker : Tracker) (told : Told) : Int :=
  told.transmitted - (tracker.successes + tracker.failures) - tracker.repliesSince told

/-- Totals far enough below the exact bound for all differences to be exact. -/
def Told.Moderate (told : Told) : Prop :=
  told.transmitted.natAbs < 2 ^ 51 ∧ told.received.natAbs < 2 ^ 51

theorem successes_add_failures (h : tracker.received ≤ tracker.transmitted) :
    tracker.successes + tracker.failures = tracker.transmitted := by
  unfold successes failures
  omega

/-- The same totals add nothing. -/
theorem stayed_iff {told : Told} (hle : tracker.received ≤ tracker.transmitted) :
    (told.transmitted = tracker.transmitted ∧ told.received = tracker.received) ↔
      tracker.repliesSince told = 0 ∧ tracker.lossesSince told = 0 := by
  have htotal := successes_add_failures hle
  unfold lossesSince repliesSince
  unfold successes at htotal ⊢
  omega

/-- Totals are one probe ahead when they add one reply or one loss. -/
theorem movedTo_iff {told : Told} (hle : tracker.received ≤ tracker.transmitted)
    (outcome : Outcome) :
    tracker.MovedTo told.transmitted told.received outcome ↔
      tracker.repliesSince told = [outcome].count .success ∧
        tracker.lossesSince told = [outcome].count .failure := by
  have htotal := successes_add_failures hle
  unfold lossesSince repliesSince
  unfold successes at htotal ⊢
  cases outcome with
  | success =>
    show _ ∧ _ ↔ _ = 1 ∧ _ = 0
    omega
  | failure =>
    show _ ∧ _ ↔ _ = 0 ∧ _ = 1
    omega

/-- The computed differences are the exact ones. -/
theorem deltas_of_moderate {told : Told} (hle : tracker.received ≤ tracker.transmitted)
    (hsmall : tracker.transmitted < 2 ^ 51) (hmoderate : told.Moderate) :
    tracker.deltaSuccess (whole told.transmitted told.received) =
        .ofInt (tracker.repliesSince told) ∧
      tracker.deltaFailure (whole told.transmitted told.received) =
        .ofInt (tracker.lossesSince told) := by
  obtain ⟨htransmitted, hreceived⟩ := hmoderate
  have hbound : Number.exactBound = 2 ^ 53 := rfl
  have htotal := successes_add_failures hle
  have hsuccess : tracker.deltaSuccess (whole told.transmitted told.received) =
      .ofInt (tracker.repliesSince told) :=
    Number.sub_ofInt_of_le (by omega)
  refine ⟨hsuccess, ?_⟩
  have hprobes : (Number.ofInt told.transmitted).sub (.ofInt tracker.transmitted) =
      .ofInt (told.transmitted - tracker.transmitted) :=
    Number.sub_ofInt_of_le (by omega)
  have hlosses : (Number.ofInt (told.transmitted - tracker.transmitted)).sub
      (.ofInt (tracker.repliesSince told)) = .ofInt (tracker.lossesSince told) := by
    have hdifference : told.transmitted - tracker.transmitted - tracker.repliesSince told =
        tracker.lossesSince told := by
      unfold lossesSince
      omega
    rw [← hdifference]
    refine Number.sub_ofInt_of_le ?_
    unfold repliesSince successes
    omega
  rw [deltaFailure, hsuccess, ← hlosses, ← hprobes]
  rfl

/-! ## Unrecorded updates -/

/-- **An update that records nothing leaves the tracker as it was**, but for the source of slots. -/
theorem tracker_receive_of_unrecorded {told : Told}
    (h : (tracker.receive told).answer.outcome? = none) :
    (tracker.receive told).tracker = tracker.withSource told.source := by
  rcases receive_cases tracker told with
    ⟨outcome, -, -, houtcome⟩ | ⟨-, hunchanged⟩ | ⟨-, -, htracker, -⟩
  · rw [houtcome] at h
    cases h
  · rw [hunchanged]
  · exact htracker

/-- A run answers every update. -/
theorem length_answers_follow (tracker : Tracker) (calls : List Told) :
    (tracker.follow calls).answers.length = calls.length := by
  induction calls using List.reverseRecOn with
  | nil => rfl
  | append_singleton calls told ih =>
    rw [follow_concat, Trace.next, List.length_append, List.length_append, ih]
    rfl

/-- The updates of a run with their answers. -/
def exchanges (tracker : Tracker) (calls : List Told) : List (Told × Answer) :=
  calls.zip (tracker.follow calls).answers

theorem exchanges_concat (tracker : Tracker) (calls : List Told) (told : Told) :
    tracker.exchanges (calls ++ [told]) =
      tracker.exchanges calls ++ [(told, ((tracker.follow calls).tracker.receive told).answer)] := by
  rw [exchanges, follow_concat, Trace.next,
    List.zip_append (length_answers_follow tracker calls).symm]
  rfl

/-- The updates of a run that recorded an outcome, with their answers. -/
def recordings (tracker : Tracker) (calls : List Told) : List (Told × Answer) :=
  (tracker.exchanges calls).filter fun exchange => exchange.2.outcome?.isSome

theorem recordings_concat_of_recorded {calls : List Told} {told : Told} {outcome : Outcome}
    (h : ((tracker.follow calls).tracker.receive told).answer.outcome? = some outcome) :
    tracker.recordings (calls ++ [told]) =
      tracker.recordings calls ++
        [(told, ((tracker.follow calls).tracker.receive told).answer)] := by
  rw [recordings, exchanges_concat, List.filter_append, List.filter_cons_of_pos (by simp [h])]
  rfl

theorem recordings_concat_of_unrecorded {calls : List Told} {told : Told}
    (h : ((tracker.follow calls).tracker.receive told).answer.outcome? = none) :
    tracker.recordings (calls ++ [told]) = tracker.recordings calls := by
  rw [recordings, exchanges_concat, List.filter_append, List.filter_cons_of_neg (by simp [h])]
  exact List.append_nil _

/-- **A run without the updates that recorded nothing** gives the same answers to the others and
ends in the same state. -/
theorem follow_recordings (tracker : Tracker) (calls : List Told) :
    (tracker.follow ((tracker.recordings calls).map Prod.fst)).answers =
        (tracker.recordings calls).map Prod.snd ∧
      (tracker.follow ((tracker.recordings calls).map Prod.fst)).tracker.Alike
        (tracker.follow calls).tracker := by
  -- Induction from the end: both runs are alike before the last update.
  induction calls using List.reverseRecOn with
  | nil => exact ⟨rfl, .refl tracker⟩
  | append_singleton calls told ih =>
    obtain ⟨hanswers, halike⟩ := ih
    have hend : (tracker.follow (calls ++ [told])).tracker =
        ((tracker.follow calls).tracker.receive told).tracker := by
      rw [follow_concat]
      rfl
    rw [hend]
    cases hrecorded : ((tracker.follow calls).tracker.receive told).answer.outcome? with
    | some outcome =>
      rw [recordings_concat_of_recorded hrecorded, List.map_append, List.map_append]
      simp only [List.map_cons, List.map_nil]
      rw [follow_concat, Trace.next, hanswers, halike.receive told]
      exact ⟨rfl, .refl _⟩
    | none =>
      rw [recordings_concat_of_unrecorded hrecorded, tracker_receive_of_unrecorded hrecorded]
      exact ⟨hanswers, halike.withSource told.source⟩

/-! ## No trace -/

/-- Totals that are one probe ahead are not the same, and show one outcome. -/
theorem MovedTo.unique {told : Told} {outcome outcome' : Outcome}
    (h : tracker.MovedTo told.transmitted told.received outcome)
    (h' : tracker.MovedTo told.transmitted told.received outcome') : outcome = outcome' := by
  cases outcome <;> cases outcome' <;> simp only [MovedTo] at h h' <;> first | rfl | omega

theorem MovedTo.not_stayed {told : Told} {outcome : Outcome}
    (h : tracker.MovedTo told.transmitted told.received outcome) :
    ¬ (told.transmitted = tracker.transmitted ∧ told.received = tracker.received) := by
  cases outcome <;> simp only [MovedTo] at h <;> omega

/-- An update records an outcome exactly if the totals are one probe ahead. -/
theorem outcome?_receive_iff {told : Told} {outcome : Outcome} :
    (tracker.receive told).answer.outcome? = some outcome ↔
      tracker.MovedTo told.transmitted told.received outcome := by
  rcases receive_cases tracker told with
    ⟨outcome', hmoved, -, houtcome⟩ | ⟨hstay, hunchanged⟩ | ⟨-, hmove, -, _, _, hanswer⟩
  · rw [houtcome, Option.some_inj]
    constructor
    · rintro rfl
      exact hmoved
    · exact hmoved.unique
  · rw [hunchanged]
    exact iff_of_false nofun fun hmoved => hmoved.not_stayed hstay
  · rw [hanswer]
    exact iff_of_false nofun (hmove outcome)

/-- An update is answered as unchanged exactly if the totals are the same. -/
theorem receive_unchanged_iff {told : Told} :
    (tracker.receive told).answer = .evaluated (.unchanged tracker.met) ↔
      told.transmitted = tracker.transmitted ∧ told.received = tracker.received := by
  rcases receive_cases tracker told with
    ⟨outcome, hmoved, -, houtcome⟩ | ⟨hstay, hunchanged⟩ | ⟨hstay, -, -, _, _, hanswer⟩
  · refine iff_of_false (fun hunchanged => ?_) hmoved.not_stayed
    rw [hunchanged] at houtcome
    cases houtcome
  · rw [hunchanged]
    exact ⟨fun _ => hstay, fun _ => rfl⟩
  · rw [hanswer]
    exact iff_of_false nofun hstay

/-- Any other totals are rejected, with the exact differences if they are moderate. -/
theorem receive_of_jumped {told : Told} (hle : tracker.received ≤ tracker.transmitted)
    (hstay : ¬ (told.transmitted = tracker.transmitted ∧ told.received = tracker.received))
    (hmove : ∀ outcome, ¬ tracker.MovedTo told.transmitted told.received outcome) :
    ∃ deltaSuccess deltaFailure,
      (tracker.receive told).answer = .violation deltaSuccess deltaFailure ∧
      (told.Moderate → tracker.transmitted < 2 ^ 51 →
        deltaSuccess = .ofInt (tracker.repliesSince told) ∧
          deltaFailure = .ofInt (tracker.lossesSince told)) := by
  rcases receive_cases tracker told with
    ⟨outcome, hmoved, -, -⟩ | ⟨hstayed, -⟩ | ⟨-, -, -, deltaSuccess, deltaFailure, hanswer⟩
  · exact absurd hmoved (hmove outcome)
  · exact absurd hstayed hstay
  · refine ⟨deltaSuccess, deltaFailure, hanswer, fun hmoderate hsmall => ?_⟩
    obtain ⟨rfl, rfl⟩ := deltas_of_violation (told.steady_withMap tracker) hanswer
    exact deltas_of_moderate hle hsmall hmoderate

/-- **Unrecorded updates leave no trace.** Totals told to a reachable tracker are answered by what
they add to its own: nothing, one reply, one loss, or anything else, which is rejected. Unless an
outcome is recorded, nothing that can be read off the tracker changes. All such updates can be
deleted from a run: the others get the same answers, and the final state is the same. -/
theorem reachable_no_trace (h : Reachable tracker) :
    (∀ told : Told,
      let step := tracker.receive told
      let replies := tracker.repliesSince told
      let losses := tracker.lossesSince told
      (step.answer = .evaluated (.unchanged tracker.met) ↔ replies = 0 ∧ losses = 0) ∧
      (step.answer.outcome? = some .success ↔ replies = 1 ∧ losses = 0) ∧
      (step.answer.outcome? = some .failure ↔ replies = 0 ∧ losses = 1) ∧
      (¬ (replies = 0 ∧ losses = 0) → ¬ (replies = 1 ∧ losses = 0) →
        ¬ (replies = 0 ∧ losses = 1) →
        ∃ deltaSuccess deltaFailure, step.answer = .violation deltaSuccess deltaFailure ∧
          (told.Moderate → tracker.transmitted < 2 ^ 51 →
            deltaSuccess = .ofInt replies ∧ deltaFailure = .ofInt losses)) ∧
      (step.answer.outcome? = none →
        step.tracker.view = tracker.view ∧ step.tracker.Alike tracker)) ∧
    ∀ calls : List Told,
      let kept := tracker.recordings calls
      let rest := tracker.follow (kept.map Prod.fst)
      rest.answers = kept.map Prod.snd ∧
        rest.tracker.view = (tracker.follow calls).tracker.view ∧
        rest.tracker.Alike (tracker.follow calls).tracker := by
  have hle := h.received_le
  constructor
  · intro told step replies losses
    refine ⟨receive_unchanged_iff.trans (stayed_iff hle),
      outcome?_receive_iff.trans (movedTo_iff hle .success),
      outcome?_receive_iff.trans (movedTo_iff hle .failure), ?_, ?_⟩
    · intro hstay hreply hloss
      refine receive_of_jumped hle (fun hstayed => hstay ((stayed_iff hle).mp hstayed)) ?_
      intro outcome hmoved
      have hadded := (movedTo_iff hle outcome).mp hmoved
      cases outcome with
      | success => exact hreply hadded
      | failure => exact hloss hadded
    · intro hunrecorded
      have htracker : step.tracker = tracker.withSource told.source :=
        tracker_receive_of_unrecorded hunrecorded
      rw [htracker, view_withSource]
      exact ⟨rfl, fun source => withSource_withSource tracker told.source source⟩
  · intro calls kept rest
    obtain ⟨hanswers, halike⟩ := follow_recordings tracker calls
    exact ⟨hanswers, halike.view_eq, halike⟩

/-- A reply without a probe adds one reply and takes one loss away, and is rejected so. -/
theorem reachable_no_trace_reply_without_probe :
    let condition : Condition :=
      { source := "2m", expect := .ofNat 2, counting := .success, location := .cumulative
        report := { map := some ⟨.ofNat 3, .standard⟩ } }
    let told : Told :=
      { transmitted := 0, received := 1, source := .standard, steady := Allocator.standard_steady }
    ∃ tracker, create condition {} = .ok tracker ∧ Reachable tracker ∧
      (tracker.receive told).answer = .violation (.ofInt 1) (.ofInt (-1)) ∧
      (tracker.receive told).tracker.view = tracker.view := by
  intro condition told
  have hreachable : Reachable _ := .create (rfl : create condition {} = .ok _)
  refine ⟨_, rfl, hreachable, ?_⟩
  obtain ⟨hanswers, -⟩ := reachable_no_trace hreachable
  obtain ⟨-, -, -, hrejected, hview⟩ := hanswers told
  obtain ⟨deltaSuccess, deltaFailure, hanswer, hexact⟩ :=
    hrejected (by decide) (by decide) (by decide)
  obtain ⟨rfl, rfl⟩ := hexact ⟨by decide, by decide⟩ (by decide)
  refine ⟨hanswer, (hview ?_).1⟩
  rw [hanswer]
  rfl

end Tracker

end Probing
