import Probing.Proofs.Command.Preparation
import Probing.Proofs.Session.Stop

/-!
# The exit code of a run

A run with loaded settings always comes to a result, and never to an internal error. Its exit code
is two when an argument is malformed. Otherwise it says whether the condition was met, if that was
asked for, and whether a reply came back among the probes that were run, if not.

## Main definitions

* `Command.RunRequest.Accepted`: the arguments of a run as they were read
* `Command.RunRequest.Rejected`: one of the arguments is malformed

## Main results

* `Command.run_of_rejected`: a malformed argument is a misuse
* `Command.run_of_accepted`: other arguments lead to a report of the probes up to the stop
* `Command.run_exitCode`: the exit code of every run
-/

namespace Probing

/-! ## The status at the stop -/

namespace Session

variable {condition : Condition} {expect : Nat} {outcomes : List Outcome} {bound stop : Nat}

/-- The outcomes up to the stop meet the condition exactly if some within the bound do. -/
theorem StopsAt.metBy_iff (h : StopsAt condition expect outcomes bound stop) :
    condition.MetBy expect (outcomes.take stop) ↔
      ∃ k ≤ bound, condition.MetBy expect (outcomes.take k) := by
  rcases h with ⟨hle, hmet, -⟩ | ⟨rfl, hunmet⟩
  · exact ⟨fun _ => ⟨stop, hle, hmet⟩, fun _ => hmet⟩
  · constructor
    · intro hmet
      exact ⟨stop, Nat.le_refl _, hmet⟩
    · rintro ⟨k, hk, hmet⟩
      exact absurd hmet (hunmet k hk)

end Session

/-- A status resolves the code of the tool to the state of the condition, if it is to speak for it,
and leaves it as it is otherwise. -/
theorem Tracker.resolve_statusFor {condition : Condition} {met : Prop} [Decidable met] {code : Nat}
    (hcode : code = 0 ∨ code = 1) :
    (statusFor condition met).resolve (.ofNat code) =
      .ofNat (if condition.report.exitStatus then if met then 0 else 1 else code) := by
  have hordinary : Number.ofNat code = .ofNat 0 ∨ Number.ofNat code = .ofNat 1 := by
    rwa [Number.ofNat_inj, Number.ofNat_inj]
  unfold ExitStatus.resolve statusFor
  rw [if_pos hordinary]
  cases condition.report.exitStatus with
  | false => rfl
  | true => by_cases hmet : met <;> simp [hmet]

/-- What a status makes of the code of a tool, which says whether there was a reply. -/
theorem Tracker.resolve_replies (condition : Condition) (met : Prop) [Decidable met]
    (history : List Outcome) :
    (statusFor condition met).resolve (.ofNat (if .success ∈ history then 0 else 1)) =
      .ofNat (if condition.report.exitStatus then if met then 0 else 1
        else if .success ∈ history then 0 else 1) := by
  refine resolve_statusFor ?_
  split
  · exact .inl rfl
  · exact .inr rfl

namespace Command

/-! ## Arguments -/

/-- A count that a run can be limited to. -/
def IsCount (count : Number) : Prop :=
  ∃ n : Nat, 0 < n ∧ n ≤ Number.maxCount ∧ count = .ofNat n

/-- The arguments of a run are well-formed and read like this. -/
structure RunRequest.Accepted (request : RunRequest) (settings : Settings) (condition : Condition)
    (outcomes : List Outcome) (count : Option Nat) : Prop where
  condition_eq : Condition.parse settings.defaultCapacity request.condition = .ok condition
  outcomes_eq : Outcome.Pattern.read request.outcomes = .ok outcomes
  count_eq : request.count = count.map .ofNat
  count_range : ∀ n, count = some n → IsCount (.ofNat n)

/-- One of the arguments of a run is malformed. -/
def RunRequest.Rejected (request : RunRequest) (settings : Settings) : Prop :=
  (∃ defect, Condition.parse settings.defaultCapacity request.condition = .error defect) ∨
    (∃ issues, Outcome.Pattern.read request.outcomes = .error issues) ∨
    ∃ count, request.count = some count ∧ ¬ IsCount count

theorem positiveInteger?_isSome_iff {count : Number} :
    count.positiveInteger?.isSome ↔ IsCount count := by
  rw [Option.isSome_iff_exists]
  constructor
  · rintro ⟨n, hn⟩
    obtain ⟨rfl, hpos, hle⟩ := Number.positiveInteger?_eq_some_iff.mp hn
    exact ⟨n, hpos, hle, rfl⟩
  · rintro ⟨n, hpos, hle, rfl⟩
    exact ⟨n, Number.positiveInteger?_eq_some_iff.mpr ⟨rfl, hpos, hle⟩⟩

theorem invalidCount?_eq_some_iff {given : Option Number} {count : Number} :
    invalidCount? given = some count ↔ given = some count ∧ ¬ IsCount count := by
  rw [invalidCount?, Option.filter_eq_some_iff, ← positiveInteger?_isSome_iff]
  simp

/-- The arguments of a run are malformed or well-formed. -/
theorem RunRequest.rejected_or_accepted (request : RunRequest) (settings : Settings) :
    request.Rejected settings ∨
      ∃ condition outcomes count, request.Accepted settings condition outcomes count := by
  cases hcondition : Condition.parse settings.defaultCapacity request.condition with
  | error defect => exact .inl (.inl ⟨defect, hcondition⟩)
  | ok condition =>
    cases houtcomes : Outcome.Pattern.read request.outcomes with
    | error issues => exact .inl (.inr (.inl ⟨issues, houtcomes⟩))
    | ok outcomes =>
      cases hcount : request.count with
      | none =>
        refine .inr ⟨condition, outcomes, none, hcondition, houtcomes, hcount, fun n hn => ?_⟩
        cases hn
      | some count =>
        by_cases hrange : IsCount count
        · obtain ⟨n, hpos, hle, rfl⟩ := hrange
          refine .inr ⟨condition, outcomes, some n, hcondition, houtcomes, hcount, fun m hm => ?_⟩
          obtain rfl := Option.some.inj hm
          exact ⟨_, hpos, hle, rfl⟩
        · exact .inl (.inr (.inr ⟨count, hcount, hrange⟩))

/-! ## Results -/

variable {settings : Settings} {request : RunRequest}

/-- **A malformed argument is a misuse.** -/
theorem run_of_rejected (h : request.Rejected settings) :
    ∃ output entries, run settings request = .ok ⟨.failure .misuse output, entries⟩ := by
  unfold run
  cases hcondition : Condition.parse settings.defaultCapacity request.condition with
  | error defect => exact ⟨_, _, rfl⟩
  | ok condition =>
    cases houtcomes : Outcome.Pattern.read request.outcomes with
    | error issues => exact ⟨_, _, rfl⟩
    | ok outcomes =>
      rcases h with ⟨defect, hdefect⟩ | ⟨issues, hissues⟩ | ⟨count, hcount, hrange⟩
      · rw [hcondition] at hdefect
        cases hdefect
      · rw [houtcomes] at hissues
        cases hissues
      · have hinvalid : invalidCount? request.count = some count :=
          invalidCount?_eq_some_iff.mpr ⟨hcount, hrange⟩
        simp only [hinvalid]
        exact ⟨_, _, rfl⟩

variable {condition : Condition} {outcomes : List Outcome} {count : Option Nat}

theorem RunRequest.Accepted.invalidCount?_eq_none
    (h : request.Accepted settings condition outcomes count) :
    invalidCount? request.count = none := by
  refine Option.eq_none_iff_forall_ne_some.mpr fun given hgiven => ?_
  obtain ⟨hcount, hrange⟩ := invalidCount?_eq_some_iff.mp hgiven
  rw [h.count_eq] at hcount
  obtain ⟨n, hn, rfl⟩ := Option.map_eq_some_iff.mp hcount
  exact hrange (h.count_range n hn)

/-- A tracker can be made for the condition of well-formed arguments. -/
theorem RunRequest.Accepted.exists_tracker (hsized : settings.Sized)
    (h : request.Accepted settings condition outcomes count) :
    ∃ expect tracker, condition.Realizable expect ∧
      Tracker.create condition (storageOf settings) = .ok tracker ∧ tracker.Steady := by
  obtain ⟨expect, hrealizable⟩ :=
    Condition.parse_realizable hsized.exists_defaultCapacity h.condition_eq
  obtain ⟨tracker, hcreate, hsteady⟩ := create_eq_ok hsized hrealizable
  exact ⟨expect, tracker, hrealizable, hcreate, hsteady⟩

/-- A run with well-formed arguments reports on its session, if that ends regularly. -/
theorem run_of_finished (h : request.Accepted settings condition outcomes count)
    {tracker : Tracker} (hcreate : Tracker.create condition (storageOf settings) = .ok tracker)
    {summary : Session.Summary}
    (hresult : (Session.replay tracker (count.map .ofNat) outcomes).result = .finished summary) :
    ∃ entries, run settings request = .ok ⟨.probeReport (probeReport settings request
      (Session.replay tracker (count.map .ofNat) outcomes).tracker summary), entries⟩ := by
  unfold run
  simp only [h.condition_eq, h.outcomes_eq, h.invalidCount?_eq_none]
  simp only [replay, hcreate, h.count_eq, hresult]
  exact ⟨_, rfl⟩

/-- **Well-formed arguments lead to a report** of the probes up to the stop. -/
theorem run_of_accepted (hsized : settings.Sized)
    (h : request.Accepted settings condition outcomes count) :
    ∃ expect stop report entries, condition.Realizable expect ∧
      Session.StopsAt condition expect outcomes (Session.bound count outcomes.length) stop ∧
      run settings request = .ok ⟨.probeReport report, entries⟩ ∧
      report.toolExitCode = .ofNat (if .success ∈ outcomes.take stop then 0 else 1) ∧
      report.exitStatus =
        Tracker.statusFor condition (condition.MetBy expect (outcomes.take stop)) := by
  obtain ⟨expect, tracker, hrealizable, hcreate, hsteady⟩ := h.exists_tracker hsized
  have hstopped : Session.Stopped condition expect outcomes (Session.bound count outcomes.length)
      (Session.replay tracker (count.map .ofNat) outcomes) :=
    Session.replay_stopped hrealizable.expect_eq hrealizable.expect_pos
      (Tracker.Recount.create hrealizable.expect_pos hcreate) hsteady outcomes
  obtain ⟨stop, reason, hstop, hresult, hrecount⟩ := hstopped
  obtain ⟨entries, hrun⟩ := run_of_finished h hcreate hresult
  refine ⟨expect, stop, _, entries, hrealizable, hstop, hrun, ?_, hrecount.status_eq⟩
  show Number.ofNat (if 0 < (outcomes.take stop).count .success then 0 else 1) = _
  simp only [List.count_pos_iff]

/-- The exit code of a run with well-formed arguments. -/
theorem exitCode_of_accepted (hsized : settings.Sized)
    (h : request.Accepted settings condition outcomes count) :
    ∃ expect stop report entries, condition.Realizable expect ∧
      Session.StopsAt condition expect outcomes (Session.bound count outcomes.length) stop ∧
      run settings request = .ok ⟨.probeReport report, entries⟩ ∧
      (Result.probeReport report).exitCode =
        .ofNat (if condition.report.exitStatus then
            if condition.MetBy expect (outcomes.take stop) then 0 else 1
          else if .success ∈ outcomes.take stop then 0 else 1) := by
  obtain ⟨expect, stop, report, entries, hrealizable, hstop, hrun, htool, hstatus⟩ :=
    run_of_accepted hsized h
  refine ⟨expect, stop, report, entries, hrealizable, hstop, hrun, ?_⟩
  show report.exitStatus.resolve report.toolExitCode = _
  rw [hstatus, htool, Tracker.resolve_replies]

/-- No run ends with an internal error, and only one with a malformed argument with code two. -/
theorem run_cases (hsized : settings.Sized) (request : RunRequest) :
    ∃ ending, run settings request = .ok ending ∧
      (∀ output, ending.result ≠ .failure .internalError output) ∧
      (ending.result.exitCode = .ofNat 2 ↔ request.Rejected settings) := by
  rcases request.rejected_or_accepted settings with
    hrejected | ⟨condition, outcomes, count, haccepted⟩
  · obtain ⟨output, entries, hrun⟩ := run_of_rejected hrejected
    refine ⟨_, hrun, ?_, fun _ => hrejected, fun _ => rfl⟩
    intro internal hresult
    cases hresult
  · obtain ⟨expect, stop, report, entries, -, -, hrun, hcode⟩ :=
      exitCode_of_accepted hsized haccepted
    refine ⟨_, hrun, ?_, ?_, ?_⟩
    · intro internal hresult
      cases hresult
    · intro htwo
      rw [hcode, Number.ofNat_inj] at htwo
      split at htwo <;> split at htwo <;> cases htwo
    · intro hrejected
      obtain ⟨output, entries', hrun'⟩ := run_of_rejected hrejected
      rw [hrun] at hrun'
      cases hrun'

/-- **The exit code of every run.** With settings from an environment a run returns, and it never
fails internally. Its code is two exactly when an argument is malformed. Otherwise it is zero or
one: by the condition if its exit status was requested, and by the replies up to the stop if not. -/
theorem run_exitCode {environment : Environment} (hload : Settings.load environment = .ok settings)
    (request : RunRequest) :
    ∃ ending, run settings request = .ok ending ∧
      (∀ output, ending.result ≠ .failure .internalError output) ∧
      (ending.result.exitCode = .ofNat 2 ↔ request.Rejected settings) ∧
      ∀ condition outcomes count, request.Accepted settings condition outcomes count →
        ∃ expect, condition.expect = .ofNat expect ∧ 0 < expect ∧
          (condition.report.exitStatus = true →
            ((∃ k ≤ Session.bound count outcomes.length,
                condition.MetBy expect (outcomes.take k)) → ending.result.exitCode = .ofNat 0) ∧
            ((¬ ∃ k ≤ Session.bound count outcomes.length,
                condition.MetBy expect (outcomes.take k)) → ending.result.exitCode = .ofNat 1)) ∧
          (condition.report.exitStatus = false →
            ∃ stop, Session.StopsAt condition expect outcomes
                (Session.bound count outcomes.length) stop ∧
              (.success ∈ outcomes.take stop → ending.result.exitCode = .ofNat 0) ∧
              (.success ∉ outcomes.take stop → ending.result.exitCode = .ofNat 1)) := by
  have hsized := Settings.load_sized hload
  obtain ⟨ending, hrun, hinternal, hmisuse⟩ := run_cases hsized request
  refine ⟨ending, hrun, hinternal, hmisuse, ?_⟩
  intro condition outcomes count haccepted
  obtain ⟨expect, stop, report, entries, hrealizable, hstop, hreport, hcode⟩ :=
    exitCode_of_accepted hsized haccepted
  obtain rfl := Except.ok.inj (hrun.symm.trans hreport)
  refine ⟨expect, hrealizable.expect_eq, hrealizable.expect_pos, ?_, ?_⟩
  · intro harmed
    rw [hcode, harmed, ← hstop.metBy_iff]
    exact ⟨fun hmet => by simp [hmet], fun hunmet => by simp [hunmet]⟩
  · intro hunarmed
    refine ⟨stop, hstop, ?_⟩
    rw [hcode, hunarmed]
    exact ⟨fun hreply => by simp [hreply], fun hlost => by simp [hlost]⟩

/-- Without any variable set, two losses in a row end the run with code zero when the condition
waits for them and its exit status was requested. -/
theorem run_exitCode_two_losses :
    ∃ settings, Settings.load (fun _ => none) = .ok settings ∧
      ∃ ending, run settings { condition := "-2s:x", outcomes := "+--+" } = .ok ending ∧
        ending.result.exitCode = .ofNat 0 := by
  have hload : Settings.load (fun _ => none) =
      .ok ⟨Log.Level.silent.name, .ofNat 100, .ofNat 512, .ofNat 512, "exit-cond"⟩ := rfl
  refine ⟨_, hload, ?_⟩
  obtain ⟨ending, hrun, -, -, hcode⟩ :=
    run_exitCode hload { condition := "-2s:x", outcomes := "+--+" }
  let phrase : Condition.Phrase :=
    { negative := true
      count :=
        { digits := "2"
          all_digits := by
            intro u hu
            obtain rfl := List.mem_singleton.mp hu
            rfl
          value_pos := by decide
          value_le := by decide }
      consecutive := true
      options := some [.exitStatus] }
  obtain ⟨expect, hexpect, -, harmed, -⟩ :=
    hcode (phrase.condition (.ofNat 100)) [.success, .failure, .failure, .success] none
      { condition_eq := Condition.parse_eq_ok_iff_read.mpr (Condition.read_written phrase)
        outcomes_eq := by decide
        count_eq := rfl
        count_range := fun _ hnone => by cases hnone }
  obtain rfl : 2 = expect := Number.ofNat_inj.mp hexpect
  exact ⟨ending, hrun, (harmed (by decide)).1 ⟨3, by decide, by decide⟩⟩

end Command

end Probing
