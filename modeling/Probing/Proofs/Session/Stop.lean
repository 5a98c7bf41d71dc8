import Probing.Proofs.Session.Course

/-!
# Where a session stops

A session on a fresh tracker replays outcomes up to the first prefix that meets the condition. When
no prefix within its limit does, it replays as many as it is allowed. It always ends regularly, with
the reason that fits, and leaves the tracker as the recount of the outcomes it has replayed.

## Main definitions

* `Session.bound`: how many outcomes a session may replay
* `Session.StopsAt`: the place where a session has to stop
* `Session.Stopped`: a session that stopped there
* `Session.FirstMetAt`: the shortest prefix that meets a condition

## Main results

* `Session.replay_course`: a session on a fresh tracker stops where it has to
* `Session.replay_earliest`: a session on a fresh tracker stops at the earliest possible probe
-/

namespace Probing.Session

open Tracker (Recount)

/-- The number of outcomes that a session with a given count may replay. -/
def bound (count : Option Nat) (total : Nat) : Nat :=
  match count with
  | none => total
  | some count => Nat.min total count

/-- The first `stop` outcomes are the least prefix within the bound that meets the condition, or
all of them up to the bound when no such prefix does. -/
def StopsAt (condition : Condition) (expect : Nat) (outcomes : List Outcome) (bound stop : Nat) :
    Prop :=
  (stop ≤ bound ∧ condition.MetBy expect (outcomes.take stop) ∧
      ∀ k < stop, ¬ condition.MetBy expect (outcomes.take k)) ∨
    (stop = bound ∧ ∀ k ≤ bound, ¬ condition.MetBy expect (outcomes.take k))

/-- A session that ended regularly where it has to stop, with the totals and the tracker of the
outcomes replayed. -/
def Stopped (condition : Condition) (expect : Nat) (outcomes : List Outcome) (bound : Nat)
    (ending : Ending) : Prop :=
  ∃ stop reason, StopsAt condition expect outcomes bound stop ∧
    ending.result = .finished ⟨stop, (outcomes.take stop).count .success, reason⟩ ∧
    Recount condition expect (outcomes.take stop) ending.tracker

variable {condition : Condition} {expect : Nat} {count : Option Nat}

theorem bound_le (count : Option Nat) (total : Nat) : bound count total ≤ total := by
  cases count with
  | none => exact Nat.le_refl _
  | some count => exact Nat.min_le_left _ _

theorem limitReached_count_iff {transmitted : Nat} :
    limitReached (count.map .ofNat) transmitted = true ↔
      ∃ limit, count = some limit ∧ limit ≤ transmitted := by
  cases count with
  | none => simp [limitReached]
  | some limit => simp [limitReached, Number.ble_ofNat]

/-- The limit is reached exactly when the bound leaves no room for another outcome. -/
theorem limitReached_iff {transmitted total : Nat} (h : transmitted < total) :
    limitReached (count.map .ofNat) transmitted = true ↔ bound count total ≤ transmitted := by
  rw [limitReached_count_iff]
  cases count with
  | none => simpa [bound] using h
  | some count =>
    have hmin : bound (some count) total = min total count := rfl
    simp only [hmin, Option.some.injEq, exists_eq_left']
    omega

/-- **A course that begins with a fresh tracker ends where it has to.** -/
theorem Course.stopsAt {tracker : Tracker} {outcomes : List Outcome} {stop : Nat} {ending : Ending}
    (h : Course (count.map .ofNat) tracker 0 0 outcomes stop ending)
    (hrecount : ∀ k, Recount condition expect (outcomes.take k)
      (tracker.recordAll (outcomes.take k))) :
    StopsAt condition expect outcomes (bound count outcomes.length) stop := by
  have hunmet : ∀ k < stop, ¬ condition.MetBy expect (outcomes.take k) := by
    intro k hk
    have hbefore := (h.goes_on k hk).1
    rwa [(hrecount k).met_eq, decide_eq_false_iff_not] at hbefore
  have hroom : stop ≤ bound count outcomes.length := by
    cases stop with
    | zero => exact Nat.zero_le _
    | succ k =>
      have hlimit := (h.goes_on k (Nat.lt_succ_self k)).2
      rw [Nat.zero_add, ← Bool.not_eq_true, limitReached_iff h.stop_le] at hlimit
      exact Nat.lt_of_not_le hlimit
  have hmet : ending.tracker.met = decide (condition.MetBy expect (outcomes.take stop)) := by
    rw [h.tracker_eq, (hrecount stop).met_eq]
  by_cases hlast : condition.MetBy expect (outcomes.take stop)
  · exact .inl ⟨hroom, hlast, hunmet⟩
  · have hfull : bound count outcomes.length ≤ stop := by
      rcases Nat.lt_or_eq_of_le h.stop_le with hlt | heq
      · rcases h.ends with hmet' | hlimit | heq
        · rw [hmet, decide_eq_true_iff] at hmet'
          exact absurd hmet' hlast
        · rw [Nat.zero_add] at hlimit
          exact (limitReached_iff hlt).mp hlimit
        · exact absurd heq hlt.ne
      · exact heq ▸ bound_le count outcomes.length
    exact .inr ⟨Nat.le_antisymm hroom hfull, fun k hk hearlier =>
      hlast (hearlier.mono (hk.trans hfull))⟩

/-- **A session on a fresh tracker stops where it has to**: it records the outcomes up to the stop
and gives the reason that fits. -/
theorem replay_course (hexpect : condition.expect = .ofNat expect) (hpos : 0 < expect)
    {tracker : Tracker} (hrecount : Recount condition expect [] tracker)
    (hsteady : tracker.Steady) (count : Option Nat) (outcomes : List Outcome) :
    let ending := replay tracker (count.map .ofNat) outcomes
    ∃ stop, StopsAt condition expect outcomes (bound count outcomes.length) stop ∧
      ending.tracker = tracker.recordAll (outcomes.take stop) ∧
      Recount condition expect (outcomes.take stop) ending.tracker ∧
      ending.result = .finished ⟨stop, (outcomes.take stop).count .success,
        reasonFor (count.map .ofNat) ending.tracker.met stop⟩ := by
  intro ending
  have hsync : InStep tracker 0 0 := .of_recount hrecount
  have hunmet : tracker.met = false := by
    rw [hrecount.met_eq]
    exact decide_eq_false (Condition.not_metBy_nil hpos)
  obtain ⟨stop, hcourse⟩ :=
    replayFrom_course (count.map .ofNat) outcomes #[] hsync hsteady hunmet
  have hafter (k : Nat) := Recount.recordAll hexpect (outcomes.take k) hrecount hsteady
  refine ⟨stop, hcourse.stopsAt hafter, hcourse.tracker_eq, ?_, ?_⟩
  · have hrecorded := hafter stop
    rwa [← hcourse.tracker_eq] at hrecorded
  · have hresult := hcourse.result_eq
    rwa [Nat.zero_add, Nat.zero_add] at hresult

theorem replay_stopped (hexpect : condition.expect = .ofNat expect) (hpos : 0 < expect)
    {tracker : Tracker} (hrecount : Recount condition expect [] tracker)
    (hsteady : tracker.Steady) (outcomes : List Outcome) :
    Stopped condition expect outcomes (bound count outcomes.length)
      (replay tracker (count.map .ofNat) outcomes) := by
  obtain ⟨stop, hstop, -, hend, hresult⟩ :=
    replay_course hexpect hpos hrecount hsteady count outcomes
  exact ⟨stop, _, hstop, hresult, hend⟩

/-! ## The earliest stop -/

/-- The first `k` outcomes meet the condition, and no shorter prefix does. -/
def FirstMetAt (condition : Condition) (expect : Nat) (outcomes : List Outcome) (k : Nat) : Prop :=
  condition.MetBy expect (outcomes.take k) ∧ ∀ j < k, ¬ condition.MetBy expect (outcomes.take j)

instance (condition : Condition) (expect : Nat) (outcomes : List Outcome) (k : Nat) :
    Decidable (FirstMetAt condition expect outcomes k) :=
  inferInstanceAs (Decidable (_ ∧ _))

variable {outcomes : List Outcome}

/-- Where a session has to stop, if a prefix within the bound meets the condition. -/
theorem StopsAt.eq_of_firstMetAt {bound stop k : Nat}
    (h : StopsAt condition expect outcomes bound stop)
    (hfirst : FirstMetAt condition expect outcomes k) (hk : k ≤ bound) : stop = k := by
  rcases h with ⟨-, hmet, hleast⟩ | ⟨rfl, hunmet⟩
  · refine Nat.le_antisymm (Nat.le_of_not_lt fun hlt => ?_) (Nat.le_of_not_lt fun hlt => ?_)
    · exact hleast k hlt hfirst.1
    · exact hfirst.2 stop hlt hmet
  · exact absurd hfirst.1 (hunmet k hk)

/-- Where a session has to stop, if no prefix within the bound meets the condition. -/
theorem StopsAt.eq_bound {bound stop : Nat} (h : StopsAt condition expect outcomes bound stop)
    (hnone : ∀ k ≤ bound, ¬ FirstMetAt condition expect outcomes k) :
    stop = bound ∧ ¬ condition.MetBy expect (outcomes.take stop) := by
  rcases h with ⟨hle, hmet, hleast⟩ | ⟨rfl, hunmet⟩
  · exact absurd ⟨hmet, hleast⟩ (hnone stop hle)
  · exact ⟨rfl, hunmet stop (Nat.le_refl _)⟩

/-- A session has one place to stop. -/
theorem StopsAt.unique {bound stop stop' : Nat}
    (h : StopsAt condition expect outcomes bound stop)
    (h' : StopsAt condition expect outcomes bound stop') : stop = stop' := by
  rcases h with ⟨hle, hmet, hleast⟩ | ⟨rfl, hunmet⟩
  · exact (h'.eq_of_firstMetAt ⟨hmet, hleast⟩ hle).symm
  · refine (h'.eq_bound fun k hk hfirst => ?_).1.symm
    exact hunmet k hk hfirst.1

/-- Where a session has to stop depends only on which prefixes meet the condition. -/
theorem StopsAt.congr {condition' : Condition} {expect' : Nat} {outcomes' : List Outcome}
    {bound stop : Nat} (h : StopsAt condition expect outcomes bound stop)
    (hsame : ∀ k ≤ bound, condition'.MetBy expect' (outcomes'.take k) ↔
      condition.MetBy expect (outcomes.take k)) :
    StopsAt condition' expect' outcomes' bound stop := by
  rcases h with ⟨hle, hmet, hleast⟩ | ⟨rfl, hunmet⟩
  · refine .inl ⟨hle, (hsame stop hle).mpr hmet, fun k hk => ?_⟩
    rw [hsame k (hk.le.trans hle)]
    exact hleast k hk
  · refine .inr ⟨rfl, fun k hk => ?_⟩
    rw [hsame k hk]
    exact hunmet k hk

theorem reasonFor_eq_conditionMet_iff {limit : Option Number} {met : Bool} {transmitted : Nat} :
    reasonFor limit met transmitted = .conditionMet ↔ met = true := by
  unfold reasonFor
  cases met with
  | true => simp
  | false => cases limitReached limit transmitted <;> simp

theorem bound_eq_of_lt {total : Nat} (h : ∀ limit, count = some limit → total < limit) :
    bound count total = total := by
  cases count with
  | none => rfl
  | some limit => exact Nat.min_eq_left (h limit rfl).le

/-- **A session on a fresh tracker stops at the earliest possible probe** and says why truthfully.
It never fails. When a prefix within the limit meets the condition it stops at the shortest, and
otherwise at the limit or at the end of the outcomes, whichever comes first. The tracker has
recorded exactly the outcomes up to there. -/
theorem replay_earliest (hexpect : condition.expect = .ofNat expect) (hpos : 0 < expect)
    {storage : Storage} (hsteady : storage.allocate.Steady) {tracker : Tracker}
    (hcreate : Tracker.create condition storage = .ok tracker) (count : Option Nat)
    (outcomes : List Outcome) :
    let ending := replay tracker (count.map .ofNat) outcomes
    ∃ stop reason,
      ending.result = .finished ⟨stop, (outcomes.take stop).count .success, reason⟩ ∧
      ending.tracker = tracker.recordAll (outcomes.take stop) ∧
      Tracker.Recount condition expect (outcomes.take stop) ending.tracker ∧
      (reason = .conditionMet ↔ ending.tracker.met = true) ∧
      (∀ k ≤ bound count outcomes.length, FirstMetAt condition expect outcomes k →
        stop = k ∧ reason = .conditionMet) ∧
      ((∀ k ≤ bound count outcomes.length, ¬ FirstMetAt condition expect outcomes k) →
        (∀ limit, count = some limit → limit ≤ outcomes.length →
          stop = limit ∧ reason = .countReached) ∧
        ((∀ limit, count = some limit → outcomes.length < limit) →
          stop = outcomes.length ∧ reason = .outcomesExhausted)) := by
  intro ending
  obtain ⟨stop, hstop, htracker, hrecount, hresult⟩ :=
    replay_course hexpect hpos (.create hpos hcreate)
      (Tracker.Steady.create hsteady hcreate) count outcomes
  refine ⟨stop, _, hresult, htracker, hrecount, reasonFor_eq_conditionMet_iff, ?_, ?_⟩
  · intro k hk hfirst
    obtain rfl := hstop.eq_of_firstMetAt hfirst hk
    refine ⟨rfl, reasonFor_eq_conditionMet_iff.mpr ?_⟩
    rw [hrecount.met_eq, decide_eq_true_iff]
    exact hfirst.1
  · intro hnone
    obtain ⟨hbound, hunmet⟩ := hstop.eq_bound hnone
    rw [hrecount.met_eq, decide_eq_false hunmet]
    constructor
    · rintro limit rfl hle
      have hlimit : stop = limit := hbound.trans (Nat.min_eq_right hle)
      refine ⟨hlimit, ?_⟩
      have hreached : limitReached (some limit |>.map .ofNat) stop = true :=
        limitReached_count_iff.mpr ⟨limit, rfl, hlimit.ge⟩
      rw [reasonFor, hreached]
      rfl
    · intro hlarge
      have hall : stop = outcomes.length := hbound.trans (bound_eq_of_lt hlarge)
      refine ⟨hall, ?_⟩
      have hroom : ¬ limitReached (count.map .ofNat) stop = true := by
        rw [limitReached_count_iff]
        rintro ⟨limit, hlimit, hle⟩
        exact absurd (hlarge limit hlimit) (by omega)
      rw [reasonFor, if_neg Bool.false_ne_true, if_neg hroom]

/-- A reply and two losses, with a limit of three: the condition, the limit and the outcomes end the
session at the same probe, and the condition is the reason. -/
theorem replay_earliest_at_limit :
    let condition : Condition :=
      { source := "-2sm", expect := .ofNat 2, counting := .failure, location := .sequence
        report := { map := some ⟨.ofNat 2, .standard⟩ } }
    let outcomes := [Outcome.success, .failure, .failure]
    ∃ tracker, Tracker.create condition {} = .ok tracker ∧ condition.expect = .ofNat 2 ∧ 0 < 2 ∧
      (replay tracker (some (.ofNat 3)) outcomes).result = .finished ⟨3, 1, .conditionMet⟩ := by
  intro condition outcomes
  refine ⟨_, rfl, rfl, by decide, ?_⟩
  obtain ⟨stop, reason, hresult, -, -, -, hmet, -⟩ :=
    @replay_earliest condition 2 rfl (by decide) {} Allocator.standard_steady _ rfl (some 3) outcomes
  obtain ⟨rfl, rfl⟩ := hmet 3 (by decide) (by decide)
  exact hresult

end Probing.Session
