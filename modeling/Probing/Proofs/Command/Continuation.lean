import Probing.Proofs.Command.Account

/-!
# Outcomes behind the stop

A session that ended before its outcomes did has not looked at what follows. A run that stopped
because its count was reached therefore gives the same result when more outcomes are appended to its
pattern, and a run that stopped because its condition was met gives it with any larger count, too.

## Main definitions

* `Session.NotBelow`: a count that allows at least as many probes as another

## Main results

* `Session.StopsAt.append_of_countReached`, `Session.StopsAt.append_of_metBy`: the stop stays where
  it is
* `Command.run_append`: a run depends only on the outcomes it consumed
-/

namespace Probing

namespace Session

variable {condition : Condition} {expect : Nat} {outcomes : List Outcome} {count : Option Nat}

/-! ## The stop of a longer session -/

/-- A count that allows at least as many probes as another one. Without a count there is no
limit. -/
def NotBelow (count count' : Option Nat) : Prop :=
  ∀ limit', count' = some limit' → ∃ limit, count = some limit ∧ limit ≤ limit'

theorem NotBelow.bound_le {count' : Option Nat} (h : NotBelow count count') {total total' : Nat}
    (htotal : total ≤ total') : bound count total ≤ bound count' total' := by
  cases count' with
  | none => exact (Session.bound_le count total).trans htotal
  | some limit' =>
    obtain ⟨limit, rfl, hlimit⟩ := h limit' rfl
    exact Nat.le_min.mpr ⟨(Nat.min_le_left ..).trans htotal, (Nat.min_le_right ..).trans hlimit⟩

theorem StopsAt.le_length {stop : Nat}
    (h : StopsAt condition expect outcomes (bound count outcomes.length) stop) :
    stop ≤ outcomes.length := by
  have hbound := Session.bound_le count outcomes.length
  rcases h with ⟨hle, -, -⟩ | ⟨rfl, -⟩
  · exact hle.trans hbound
  · exact hbound

/-- A session that has reached its count stops there, whatever follows. -/
theorem StopsAt.append_of_countReached {stop limit : Nat}
    (h : StopsAt condition expect outcomes (bound (some limit) outcomes.length) stop)
    (hlimit : limit ≤ stop) (later : List Outcome) :
    StopsAt condition expect (outcomes ++ later)
      (bound (some limit) (outcomes ++ later).length) stop := by
  have hlength : limit ≤ outcomes.length := hlimit.trans h.le_length
  have hbound : bound (some limit) outcomes.length = limit := Nat.min_eq_right hlength
  have hbound' : bound (some limit) (outcomes ++ later).length = limit := by
    refine Nat.min_eq_right ?_
    rw [List.length_append]
    omega
  rw [hbound] at h
  rw [hbound']
  refine h.congr fun k hk => ?_
  rw [List.take_append_of_le_length (hk.trans hlength)]

/-- A session that has met its condition stops there, whatever follows and with any larger
count. -/
theorem StopsAt.append_of_metBy {count' : Option Nat} {stop : Nat}
    (h : StopsAt condition expect outcomes (bound count outcomes.length) stop)
    (hmet : condition.MetBy expect (outcomes.take stop)) (hcount : NotBelow count count')
    (later : List Outcome) :
    StopsAt condition expect (outcomes ++ later)
      (bound count' (outcomes ++ later).length) stop := by
  have hlength := h.le_length
  have hsame : ∀ k ≤ stop, (outcomes ++ later).take k = outcomes.take k :=
    fun k hk => List.take_append_of_le_length (hk.trans hlength)
  have hroom : bound count outcomes.length ≤ bound count' (outcomes ++ later).length :=
    hcount.bound_le (by simp)
  rcases h with ⟨hle, -, hleast⟩ | ⟨rfl, hunmet⟩
  · refine .inl ⟨hle.trans hroom, by rwa [hsame stop (Nat.le_refl stop)], fun k hk => ?_⟩
    rw [hsame k hk.le]
    exact hleast k hk
  · exact absurd hmet (hunmet _ (Nat.le_refl _))

/-- The reason of a session that could not go on. -/
theorem limitReached_of_reasonFor {limit : Option Number} {met : Bool} {transmitted : Nat}
    (h : reasonFor limit met transmitted = .countReached) :
    limitReached limit transmitted = true := by
  unfold reasonFor at h
  split at h
  · cases h
  · split at h
    · assumption
    · cases h

end Session

namespace Command

variable {settings : Settings} {request : RunRequest} {condition : Condition}
  {outcomes later : List Outcome} {count : Option Nat}

/-! ## The result of a longer run -/

/-- The arguments of a run with a longer pattern and another count. -/
theorem RunRequest.Accepted.continued (h : request.Accepted settings condition outcomes count)
    {pattern : Text} (hpattern : Outcome.Pattern.read pattern = .ok (outcomes ++ later))
    {count' : Option Nat} (hrange : ∀ n, count' = some n → IsCount (.ofNat n)) :
    RunRequest.Accepted { request with outcomes := pattern, count := count'.map .ofNat } settings
      condition (outcomes ++ later) count' where
  condition_eq := h.condition_eq
  outcomes_eq := hpattern
  count_eq := rfl
  count_range := hrange

/-- A run that has to stop at the same place of longer outcomes gives the same account. -/
theorem run_continued {expect stop : Nat} (h : request.Accepted settings condition outcomes count)
    (hexpect : condition.expect = .ofNat expect) (hpos : 0 < expect) {tracker : Tracker}
    (hcreate : Tracker.create condition (storageOf settings) = .ok tracker)
    {pattern : Text} (hpattern : Outcome.Pattern.read pattern = .ok (outcomes ++ later))
    {count' : Option Nat} (hrange : ∀ n, count' = some n → IsCount (.ofNat n))
    (hle : stop ≤ outcomes.length)
    (hstop : Session.StopsAt condition expect (outcomes ++ later)
      (Session.bound count' (outcomes ++ later).length) stop) :
    ∃ entries, run settings { request with outcomes := pattern, count := count'.map .ofNat } =
      .ok ⟨.probeReport
        (account settings request condition expect tracker.map (outcomes.take stop)), entries⟩ := by
  obtain ⟨stop', reason, entries, hstop', -, -, hrun⟩ :=
    run_account (h.continued hpattern hrange) hexpect hpos hcreate
  obtain rfl := hstop.unique hstop'
  rw [List.take_append_of_le_length hle] at hrun
  exact ⟨entries, hrun⟩

/-- **A run depends only on the outcomes it consumed.** If its session reached the count, the
result is the same when any outcomes are appended to the pattern. If it met the condition, the
result is the same with any larger count or none, too. -/
theorem run_append (h : request.Accepted settings condition outcomes count) {tracker : Tracker}
    (hcreate : Tracker.create condition (storageOf settings) = .ok tracker)
    {summary : Session.Summary}
    (hsession : (Session.replay tracker request.count outcomes).result = .finished summary)
    {pattern : Text} (hpattern : Outcome.Pattern.read pattern = .ok (outcomes ++ later)) :
    ∃ ending, run settings request = .ok ending ∧
      (summary.stoppedBy = .countReached →
        ∃ ending', run settings { request with outcomes := pattern } = .ok ending' ∧
          ending'.result = ending.result) ∧
      (summary.stoppedBy = .conditionMet →
        ∀ count', (∀ n, count' = some n → IsCount (.ofNat n)) → Session.NotBelow count count' →
          ∃ ending', run settings { request with outcomes := pattern, count := count'.map .ofNat } =
              .ok ending' ∧ ending'.result = ending.result) := by
  obtain ⟨expect, hexpect, hpos, -⟩ := Condition.parse_expect h.condition_eq
  obtain ⟨stop, reason, entries, hstop, hresult, hreason, hrun⟩ :=
    run_account h hexpect hpos hcreate
  obtain rfl := Session.Result.finished.inj (hresult.symm.trans hsession)
  refine ⟨_, hrun, ?_, ?_⟩
  · intro hreached
    have hlimit : Session.limitReached (count.map .ofNat) stop = true := by
      rw [← h.count_eq]
      exact Session.limitReached_of_reasonFor (hreason.symm.trans hreached)
    obtain ⟨limit, rfl, hle⟩ := Session.limitReached_count_iff.mp hlimit
    obtain ⟨entries', hrun'⟩ := run_continued h hexpect hpos hcreate hpattern h.count_range
      hstop.le_length (hstop.append_of_countReached hle later)
    rw [← h.count_eq] at hrun'
    exact ⟨_, hrun', rfl⟩
  · intro hconditionMet count' hrange hcount
    have hmet : condition.MetBy expect (outcomes.take stop) := by
      rw [hreason] at hconditionMet
      exact decide_eq_true_iff.mp (Session.reasonFor_eq_conditionMet_iff.mp hconditionMet)
    obtain ⟨entries', hrun'⟩ := run_continued h hexpect hpos hcreate hpattern hrange
      hstop.le_length (hstop.append_of_metBy hmet hcount later)
    exact ⟨_, hrun', rfl⟩

/-- The second of two replies in a row is the last of four probes that are allowed. The result is
the same without a limit when two losses follow, the slots of the map included. -/
theorem run_append_two_losses :
    let request : RunRequest :=
      { condition := "2s:m", outcomes := "+-++", count := some (.ofNat 4), debugMap := true }
    ∃ ending ending', run .standard request = .ok ending ∧
      run .standard { request with outcomes := "+-++ --", count := none } = .ok ending' ∧
      ending'.result = ending.result := by
  intro request
  let phrase : Condition.Phrase :=
    { negative := false
      count := .single (unit '2') (by decide) (by decide) (by decide)
      consecutive := true
      options := some [.map none] }
  have haccepted : request.Accepted .standard (phrase.condition (.ofNat 100))
      [.success, .failure, .success, .success] (some 4) :=
    { condition_eq := Condition.parse_eq_ok_iff_read.mpr (Condition.read_written phrase)
      outcomes_eq := by decide
      count_eq := rfl
      count_range := by
        rintro n hn
        obtain rfl := Option.some.inj hn
        exact ⟨4, by decide, by decide, rfl⟩ }
  obtain ⟨ending, hrun, -, hmet⟩ :=
    @run_append .standard request _ _ [.failure, .failure] _ haccepted _ rfl
      ⟨4, 3, .conditionMet⟩ (by decide +kernel) "+-++ --" (by decide)
  obtain ⟨ending', hrun', hresult⟩ := hmet rfl none (fun _ hnone => by cases hnone)
    fun _ hnone => by cases hnone
  exact ⟨ending, ending', hrun, hrun', hresult⟩

end Command

end Probing
