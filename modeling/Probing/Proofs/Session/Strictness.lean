import Mathlib.Data.List.Count
import Probing.Proofs.Session.Course
import Probing.Proofs.Tracker.Interruption

/-!
# Stricter conditions

Two sessions replay the same outcomes on fresh trackers whose conditions count the same outcome and
ask for the same map. One condition is stricter: it waits for more outcomes, or for outcomes in a
row where the other counts them anywhere. Whatever meets the stricter condition meets the other,
although a sequence is satisfied only at the outcome with which it reaches its length. The maps of
the two trackers are the same at every probe, so that a source of slots that fails interrupts both
sessions or neither.

## Main definitions

* `Condition.EasierThan`: a condition that a history meets if it meets another one
* `Session.Abreast`: two trackers that have recorded the same history
* `Session.MetWithin`: a session that its condition ended soon enough

## Main results

* `Condition.EasierThan.of_le`: fewer outcomes, in the same place or anywhere
* `Session.Abreast.record`: one record of each of two trackers
* `Session.Abreast.metWithin`: two sessions from there on
* `Session.replay_no_earlier`: a stricter condition never stops a session earlier
-/

namespace Probing

/-! ## Stricter conditions -/

namespace Condition

/-- Every history that meets `strict` with a count of `b` meets `easy` with one of `a`. -/
def EasierThan (easy : Condition) (a : Nat) (strict : Condition) (b : Nat) : Prop :=
  ∀ history, strict.MetBy b history → easy.MetBy a history

/-- **A condition is easier** that waits for no more outcomes, in the same place or anywhere. -/
theorem EasierThan.of_le {easy strict : Condition} {a b : Nat} (hle : a ≤ b)
    (hcounting : easy.counting = strict.counting)
    (hlocation : easy.location = strict.location ∨ easy.location = .cumulative) :
    easy.EasierThan a strict b := by
  intro history hmet
  unfold MetBy at hmet ⊢
  rw [hcounting]
  cases hstrict : strict.location with
  | cumulative =>
    have heasy : easy.location = .cumulative := by simpa only [hstrict, or_self] using hlocation
    rw [hstrict] at hmet
    rw [heasy]
    exact hle.trans hmet
  | sequence =>
    rw [hstrict] at hmet hlocation
    have hbegins : List.replicate a strict.counting <+: List.replicate b strict.counting :=
      List.prefix_replicate_iff.mpr (by simpa using hle)
    have hrun := hbegins.isInfix.trans hmet
    rcases hlocation with heasy | heasy
    · rw [heasy]
      exact hrun
    · rw [heasy]
      simpa using hrun.sublist.count_le strict.counting

end Condition

namespace Session

open Tracker (Recount)

variable {strict easy : Condition} {a b : Nat} {history : List Outcome} {tracker other : Tracker}

/-! ## Two trackers -/

/-- Two trackers have recorded the same history, and have the same map. -/
structure Abreast (strict : Condition) (b : Nat) (easy : Condition) (a : Nat)
    (history : List Outcome) (tracker other : Tracker) : Prop where
  recount : Recount strict b history tracker
  recount_other : Recount easy a history other
  map_eq : other.map = tracker.map

/-- **One record of each of two trackers**: the source of slots interrupts it, or both trackers give
their verdict on the same outcome. -/
theorem Abreast.record (h : Abreast strict b easy a history tracker other)
    (hstrict : strict.expect = .ofNat b) (heasy : easy.expect = .ofNat a) (outcome : Outcome) :
    (∃ reason, (tracker.record outcome).answer = .interrupted reason) ∨
    (Abreast strict b easy a (history ++ [outcome]) (tracker.record outcome).tracker
        (other.record outcome).tracker ∧
      (tracker.record outcome).answer = .evaluated (strict.verdict b history outcome) ∧
      (other.record outcome).answer = .evaluated (easy.verdict a history outcome)) := by
  by_cases hentered : ∀ map, tracker.map = some map → (map.record outcome).failure = none
  · right
    obtain ⟨hrecount, hanswer⟩ := h.recount.record_of_entered hstrict hentered
    rw [← h.map_eq] at hentered
    obtain ⟨hother, hanswer'⟩ := h.recount_other.record_of_entered heasy hentered
    refine ⟨⟨hrecount, hother, ?_⟩, hanswer, hanswer'⟩
    rw [Tracker.record_map, Tracker.record_map, h.map_eq]
  · left
    push Not at hentered
    obtain ⟨map, hmap, hfailure⟩ := hentered
    obtain ⟨reason, hreason⟩ := Option.ne_none_iff_exists'.mp hfailure
    exact ⟨reason, (Tracker.record_of_failed hmap hreason).1⟩

/-! ## Two sessions -/

/-- A session ended with its condition met, after no more than the given number of probes. -/
def MetWithin (probes : Nat) (ending : Ending) : Prop :=
  ∃ transmitted ≤ probes, ∃ received,
    ending.result = .finished ⟨transmitted, received, .conditionMet⟩

/-- **Two sessions from there on**: if the stricter condition ends its session, the other has ended
its own by then. -/
theorem Abreast.metWithin (hstrict : strict.expect = .ofNat b) (heasy : easy.expect = .ofNat a)
    (heasier : easy.EasierThan a strict b) {limit : Option Number} {probes received : Nat}
    (outcomes : List Outcome) :
    ∀ {history : List Outcome} {tracker other : Tracker} (events events' : Array Event),
      Abreast strict b easy a history tracker other →
      (replayFrom limit tracker events history.length (history.count .success) outcomes).result =
        .finished ⟨probes, received, .conditionMet⟩ →
      MetWithin probes
        (replayFrom limit other events' history.length (history.count .success) outcomes) := by
  induction outcomes with
  | nil =>
    intro history tracker other events events' h hstop
    rw [replayFrom] at hstop
    have hreason := congrArg Summary.stoppedBy (Result.finished.inj hstop)
    dsimp only at hreason
    split at hreason <;> cases hreason
  | cons outcome rest ih =>
    intro history tracker other events events' h hstop
    cases hlimit : limitReached limit history.length with
    | true =>
      rw [replayFrom, if_pos hlimit] at hstop
      cases hstop
    | false =>
      rcases h.record hstrict heasy outcome with ⟨reason, hanswer⟩ | ⟨hnext, hanswer, hanswer'⟩
      · rw [replayFrom_cons_of_interrupted hlimit (.of_recount h.recount) hanswer] at hstop
        cases hstop
      · obtain ⟨later, hending⟩ := replayFrom_cons_of_evaluated hlimit (.of_recount h.recount)
          hanswer rest events
        obtain ⟨later', hending'⟩ := replayFrom_cons_of_evaluated hlimit
          (.of_recount h.recount_other) hanswer' rest events'
        rw [hending, Condition.conditionMet_verdict] at hstop
        rw [hending', Condition.conditionMet_verdict]
        have hlength : history.length + 1 = (history ++ [outcome]).length := by simp
        rw [countOn_count, hlength] at hstop ⊢
        by_cases hmet : easy.MetBy a (history ++ [outcome])
        · rw [if_pos (decide_eq_true hmet)]
          refine ⟨_, ?_, _, rfl⟩
          split at hstop
          · exact (congrArg Summary.transmitted (Result.finished.inj hstop)).le
          · exact le_of_replayFrom_eq_finished hstop
        · have hunmet : ¬ strict.MetBy b (history ++ [outcome]) := mt (heasier _) hmet
          rw [if_neg (by simpa using hunmet)] at hstop
          rw [if_neg (by simpa using hmet)]
          exact ih later later' hnext hstop

/-! ## Fresh trackers -/

/-- Fresh trackers for conditions with the same map are abreast. -/
theorem Abreast.create {storage : Storage} (hpos : 0 < a) (hle : a ≤ b)
    (hmap : easy.report.map = strict.report.map)
    (hcreate : Tracker.create strict storage = .ok tracker) :
    ∃ other, Tracker.create easy storage = .ok other ∧
      Abreast strict b easy a [] tracker other := by
  have hother := Tracker.create_congr hmap storage
  rw [hcreate] at hother
  exact ⟨_, hother, .create (hpos.trans_le hle) hcreate, .create hpos hother, rfl⟩

/-- **A stricter condition never stops a session earlier.** If a session on a fresh tracker ends
with its condition met, then so does one whose condition waits for no more outcomes, in the same
place or anywhere, and after no more probes. The source of slots may fail at any time. -/
theorem replay_no_earlier (hstrict : strict.expect = .ofNat b) (heasy : easy.expect = .ofNat a)
    (hpos : 0 < a) (hle : a ≤ b) (hcounting : easy.counting = strict.counting)
    (hlocation : easy.location = strict.location ∨ easy.location = .cumulative)
    (hmap : easy.report.map = strict.report.map) {storage : Storage}
    (hcreate : Tracker.create strict storage = .ok tracker) (limit : Option Number)
    {outcomes : List Outcome} {probes received : Nat}
    (hstop : (replay tracker limit outcomes).result =
      .finished ⟨probes, received, .conditionMet⟩) :
    ∃ other, Tracker.create easy storage = .ok other ∧
      MetWithin probes (replay other limit outcomes) := by
  obtain ⟨other, hother, habreast⟩ := Abreast.create hpos hle hmap hcreate
  have heasier : easy.EasierThan a strict b := .of_le hle hcounting hlocation
  exact ⟨other, hother, habreast.metWithin hstrict heasy heasier outcomes #[] #[] hstop⟩

/-- Three replies in a row after an earlier one: waiting for two replies anywhere instead ends the
session as soon as the second one is in. -/
theorem replay_no_earlier_of_three_in_a_row :
    let strict : Condition :=
      { source := "3s", expect := .ofNat 3, counting := .success, location := .sequence
        report := { map := some ⟨.ofNat 9, .standard⟩ } }
    let easy : Condition :=
      { strict with source := "2", expect := .ofNat 2, location := .cumulative }
    let outcomes := [Outcome.success, .failure, .success, .success, .success, .failure]
    ∃ tracker other, Tracker.create strict {} = .ok tracker ∧ Tracker.create easy {} = .ok other ∧
      (replay tracker (some (.ofNat 5)) outcomes).result = .finished ⟨5, 4, .conditionMet⟩ ∧
      MetWithin 5 (replay other (some (.ofNat 5)) outcomes) ∧
      (replay other (some (.ofNat 5)) outcomes).result = .finished ⟨3, 2, .conditionMet⟩ := by
  intro strict easy outcomes
  obtain ⟨tracker, hcreate⟩ : ∃ tracker, Tracker.create strict {} = .ok tracker := ⟨_, rfl⟩
  have hstop : (replay tracker (some (.ofNat 5)) outcomes).result =
      .finished ⟨5, 4, .conditionMet⟩ := by
    obtain rfl := Except.ok.inj hcreate
    decide +kernel
  obtain ⟨other, hother, hwithin⟩ := @replay_no_earlier strict easy 2 3 tracker rfl rfl
    (by decide) (by decide) rfl (.inr rfl) rfl {} hcreate (some (.ofNat 5)) outcomes 5 4 hstop
  refine ⟨tracker, other, hcreate, hother, hstop, hwithin, ?_⟩
  obtain rfl := Except.ok.inj hother
  decide +kernel

end Session

end Probing
