import Probing.Proofs.Command.Account
import Probing.Proofs.Condition.Mirror

/-!
# Runs that count the other outcome

A run whose condition waits for losses is the mirror image of one whose condition waits for replies:
on a pattern with all outcomes exchanged it stops at the same probe and reports the same. The code
of the probing tool is no mirror image, for it always looks at replies, so that the exit code is the
same only if it speaks for the condition.

## Main results

* `Session.StopsAt.mirror`: a session with exchanged outcomes stops at the same place
* `Report.line_mirror`: it reports the same, if the count of replies is left out
* `Command.run_mirror`: the results of the two runs
-/

namespace Probing

open Outcome

section Mirror

variable {condition : Condition} {expect : Nat} {history outcomes : List Outcome}

/-! ## The stop -/

/-- **Exchanged outcomes stop a session at the same place.** -/
theorem Session.StopsAt.mirror {bound stop : Nat}
    (h : StopsAt condition expect outcomes bound stop) :
    StopsAt condition.mirror expect (outcomes.map opposite) bound stop := by
  refine h.congr fun k _ => ?_
  rw [← List.map_take, Condition.metBy_mirror]

/-- A tracker can be made for a condition without a map, and it has none either. -/
theorem Tracker.create_of_map_eq_none (h : condition.report.map = none) (storage : Storage) :
    ∃ tracker, create condition storage = .ok tracker ∧ tracker.map = none := by
  unfold create
  rw [h]
  exact ⟨_, rfl, rfl⟩

/-! ## The report -/

theorem Tracker.statusFor_mirror :
    statusFor condition.mirror (condition.mirror.MetBy expect (history.map opposite)) =
      statusFor condition (condition.MetBy expect history) := by
  have hstatus : condition.mirror.report.exitStatus = condition.report.exitStatus := rfl
  simp only [statusFor, hstatus, Condition.metBy_mirror]

/-- The fields of a mirrored report are the same, since the count that is left out becomes the other
one. -/
theorem Report.fields_mirror (hsuccesses : condition.report.showSuccesses = false)
    (map : Option Text) :
    fields (.ofHistory condition.mirror expect map (history.map opposite)) =
      fields (.ofHistory condition expect map history) := by
  have hfailures : (history.map opposite).count .success = history.count .failure :=
    count_map_opposite history .success
  have hmirror : condition.mirror.report = condition.report.mirror := rfl
  unfold fields Tracker.Snapshot.ofHistory
  simp only [hmirror, ReportRequest.mirror, hsuccesses, hfailures, Condition.metBy_mirror]
  simp [Text.onlyIf]

/-- **A mirrored report** is the same line, if the count of replies is left out. -/
theorem Report.line_mirror (hsuccesses : condition.report.showSuccesses = false) (label : Text)
    (force : Bool) (map : Option Text) :
    line label force (.ofHistory condition.mirror expect map (history.map opposite)) =
      line label force (.ofHistory condition expect map history) :=
  line_congr condition.report.hasFields_mirror (fields_mirror hsuccesses map) fun _ => rfl

end Mirror

/-! ## Runs -/

namespace Command

variable {settings : Settings} {request : RunRequest} {condition : Condition} {expect : Nat}
  {outcomes : List Outcome} {count : Option Nat}

/-- The arguments of a run with a minus sign in front of its condition, and with a pattern of the
other outcomes. -/
theorem RunRequest.Accepted.mirror (h : request.Accepted settings condition outcomes count)
    (hsign : request.condition.head? ≠ some (unit '-'))
    (hoptions : ∀ u ∈ Condition.optionsText request.condition, u ∈ ("xqcn" : Text))
    {pattern : Text} (hpattern : Outcome.Pattern.read pattern = .ok (outcomes.map opposite)) :
    RunRequest.Accepted
      { request with condition := unit '-' :: request.condition, outcomes := pattern } settings
      condition.mirror (outcomes.map opposite) count where
  condition_eq := Condition.parse_negated h.condition_eq hsign hoptions
  outcomes_eq := hpattern
  count_eq := h.count_eq
  count_range := h.count_range

/-- The exit code of an account speaks for the condition, if that was asked for. -/
theorem exitCode_account (hstatus : condition.report.exitStatus = true) (map : Option OutcomeMap)
    (history : List Outcome) :
    (Result.probeReport (account settings request condition expect map history)).exitCode =
      .ofNat (if condition.MetBy expect history then 0 else 1) := by
  refine (Tracker.resolve_replies condition _ history).trans ?_
  rw [if_pos hstatus]

/-- **Counting losses is the mirror image of counting replies.** Let the options of a condition
without a sign be bare. With a minus sign it is a condition, too, and a run of that with all
outcomes exchanged gives the same report and the same exit status, whatever the settings and the
count are and whether or not the report is forced. The exit codes are the same if they speak for
the condition. -/
theorem run_mirror (h : request.Accepted settings condition outcomes count)
    (hsign : request.condition.head? ≠ some (unit '-'))
    (hoptions : ∀ u ∈ Condition.optionsText request.condition, u ∈ ("xqcn" : Text))
    {pattern : Text} (hpattern : Outcome.Pattern.read pattern = .ok (outcomes.map opposite)) :
    (∃ condition', Condition.parse settings.defaultCapacity (unit '-' :: request.condition) =
      .ok condition') ∧
    ∃ report report' entries entries',
      run settings request = .ok ⟨.probeReport report, entries⟩ ∧
      run settings { request with
          condition := unit '-' :: request.condition, outcomes := pattern } =
        .ok ⟨.probeReport report', entries'⟩ ∧
      report'.report = report.report ∧ report'.exitStatus = report.exitStatus ∧
      (unit 'x' ∈ Condition.optionsText request.condition →
        (Result.probeReport report').exitCode = (Result.probeReport report).exitCode) := by
  have h' := h.mirror hsign hoptions hpattern
  obtain ⟨hsuccesses, hmap, hstatus⟩ :=
    Condition.report_of_bare_options h.condition_eq hsign hoptions
  obtain ⟨expect, hexpect, hpos, -⟩ := Condition.parse_expect h.condition_eq
  obtain ⟨tracker, hcreate, hnone⟩ := Tracker.create_of_map_eq_none hmap (storageOf settings)
  have hmap' : condition.mirror.report.map = none := hmap
  obtain ⟨tracker', hcreate', hnone'⟩ := Tracker.create_of_map_eq_none hmap' (storageOf settings)
  obtain ⟨stop, _, entries, hstop, -, -, hrun⟩ := run_account h hexpect hpos hcreate
  obtain ⟨stop', _, entries', hstop', -, -, hrun'⟩ := run_account h' hexpect hpos hcreate'
  rw [List.length_map] at hstop'
  obtain rfl := hstop.mirror.unique hstop'
  rw [hnone] at hrun
  rw [hnone', ← List.map_take] at hrun'
  refine ⟨⟨_, h'.condition_eq⟩, _, _, entries, entries', hrun, hrun', ?_, ?_, ?_⟩
  · exact Report.line_mirror hsuccesses ..
  · exact Tracker.statusFor_mirror
  · intro hx
    have hexit := hstatus hx
    have hexit' : condition.mirror.report.exitStatus = true := hexit
    rw [exitCode_account hexit, exitCode_account hexit']
    simp only [Condition.metBy_mirror]

/-- Two replies in a row, and two losses in a row among the other outcomes, are both found at the
last of four probes. -/
theorem run_mirror_two_replies :
    let request : RunRequest :=
      { condition := "2s:xnc", outcomes := "+-++", count := some (.ofNat 4) }
    ∃ report report' entries entries',
      run .standard request = .ok ⟨.probeReport report, entries⟩ ∧
      run .standard { request with condition := "-2s:xnc", outcomes := "-+--" } =
        .ok ⟨.probeReport report', entries'⟩ ∧
      report'.report = report.report ∧ report'.exitStatus = report.exitStatus ∧
      (Result.probeReport report').exitCode = (Result.probeReport report).exitCode := by
  intro request
  let phrase : Condition.Phrase :=
    { negative := false
      count := .single (unit '2') (by decide) (by decide) (by decide)
      consecutive := true
      options := some [.exitStatus, .count none, .state] }
  have haccepted : request.Accepted .standard (phrase.condition (.ofNat 100))
      [.success, .failure, .success, .success] (some 4) :=
    { condition_eq := Condition.parse_eq_ok_iff_read.mpr (Condition.read_written phrase)
      outcomes_eq := by decide
      count_eq := rfl
      count_range := by
        rintro n hn
        obtain rfl := Option.some.inj hn
        exact ⟨4, by decide, by decide, rfl⟩ }
  have hpattern : Outcome.Pattern.read "-+--" =
      .ok ([.success, .failure, .success, .success].map opposite) := by
    decide
  have hoptions : Condition.optionsText request.condition ⊆ ("xqcn" : Text) := by decide
  obtain ⟨-, report, report', entries, entries', hrun, hrun', hreport, hstatus, hcode⟩ :=
    run_mirror haccepted (by decide) hoptions hpattern
  exact ⟨report, report', entries, entries', hrun, hrun', hreport, hstatus, hcode (by decide)⟩

end Command

end Probing
