import Probing.Proofs.Command.Replay
import Probing.Proofs.Report.Shape

/-!
# The report of a run

The label of loaded settings is flat, for its alphabet leaves out what structures a report. No
such restriction is made for the glyphs of a map. The report of a run is therefore readable
exactly if the glyphs that it shows are flat, and a slash among them makes a field too many.

## Main results

* `Settings.load_label_isFlat`: loaded labels are flat
* `Command.replayed_singleReply`: a single reply that meets the condition is shown
* `Command.run_report_readable_iff`: the report of a run is readable exactly if the glyphs in it
  are flat
* `Command.run_report_unreadable`: glyphs that spoil a report
-/

namespace Probing

open Text

/-! ## Labels -/

namespace Settings

theorem readLabel_isFlat {given : Option Text} {label : Text}
    (h : readLabel given = .ok label) : label.IsFlat := by
  obtain ⟨hlabel, rfl⟩ := readLabel_eq_ok_iff.mp h
  cases given with
  | none => decide
  | some given => exact (hlabel given rfl).2

/-- **Loaded labels are flat.** -/
theorem load_label_isFlat {environment : Environment} {settings : Settings}
    (h : load environment = .ok settings) : settings.label.IsFlat :=
  readLabel_isFlat (load_eq_ok_iff.mp h).2.2.2.2

end Settings

/-! ## Maps -/

/-- A window is flat exactly if the glyphs in it are. -/
theorem OutcomeMap.window_isFlat_iff {glyphs : Glyphs} {bound : Nat} {kept : List Outcome} :
    (window glyphs bound kept).IsFlat ↔
      ∀ outcome ∈ kept.rtake bound, (glyphs.ofOutcome outcome).IsFlat := by
  rw [window_eq, isFlat_flatten, List.forall_mem_map]

/-! ## Reports -/

namespace Command

variable {settings : Settings} {request : RunRequest} {condition : Condition}
  {outcomes : List Outcome} {count : Option Nat}

/-- The report of a tracker that has replayed outcomes is readable exactly if the glyphs that it
shows are flat. -/
theorem Replayed.readable_iff {expect stop bound : Nat} {tracker : Tracker}
    (h : Replayed condition expect outcomes count stop bound tracker) {label : Text}
    (hlabel : label.IsFlat) {force : Bool} (hline : Report.line label force tracker.snapshot ≠ []) :
    Report.Readable condition.report label (Report.line label force tracker.snapshot) ↔
      ∀ map, condition.report.map = some map →
        ∀ outcome ∈ (outcomes.take stop).rtake bound, (map.glyphs.ofOutcome outcome).IsFlat := by
  rw [h.snapshot_eq] at hline ⊢
  have hmap : (shownMap condition bound (outcomes.take stop)).isSome =
      condition.report.map.isSome := Option.isSome_map
  refine (Report.readable_line_iff hlabel hmap hline).trans ?_
  show ((shownMap condition bound (outcomes.take stop)).getD []).IsFlat ↔ _
  unfold shownMap
  cases condition.report.map with
  | none => simp [isFlat_nil]
  | some map => simp [OutcomeMap.window_isFlat_iff]

/-- **The report of a run is readable exactly if the glyphs in it are flat**: those of the last
outcomes up to the stop, as many as the map shows. It is empty only if no field was requested and it
was not forced. -/
theorem run_report_readable_iff {environment : Environment}
    (hload : Settings.load environment = .ok settings)
    (h : request.Accepted settings condition outcomes count) :
    ∃ expect stop bound report entries, condition.expect = .ofNat expect ∧
      Session.StopsAt condition expect outcomes (Session.bound count outcomes.length) stop ∧
      (∀ map, condition.report.map = some map → Attainable condition →
        map.maxCapacity = .ofNat bound) ∧
      run settings request = .ok ⟨.probeReport report, entries⟩ ∧
      (report.report = [] ↔ request.forceReport = false ∧ condition.report.hasFields = false) ∧
      (report.report ≠ [] →
        (Report.Readable condition.report settings.label report.report ↔
          ∀ map, condition.report.map = some map →
            ∀ outcome ∈ (outcomes.take stop).rtake bound,
              (map.glyphs.ofOutcome outcome).IsFlat)) := by
  obtain ⟨expect, stop, bound, tracker, summary, entries, hreplayed, -, hrun⟩ :=
    run_replayed (Settings.load_sized hload) h
  have hempty : Report.line settings.label request.forceReport tracker.snapshot = [] ↔
      request.forceReport = false ∧ condition.report.hasFields = false := by
    rw [hreplayed.snapshot_eq]
    exact Report.line_eq_nil_iff
  exact ⟨expect, stop, bound, _, entries, hreplayed.realizable.expect_eq, hreplayed.stopsAt,
    hreplayed.bound_eq, hrun, hempty, hreplayed.readable_iff (Settings.load_label_isFlat hload)⟩

/-- With standard settings the report of three probes has three fields. -/
theorem run_report_readable_three_fields :
    ∃ settings, Settings.load (fun _ => none) = .ok settings ∧
      ∃ condition report entries,
        Condition.parse settings.defaultCapacity "2:Nm(:^_)" = .ok condition ∧
        run settings { condition := "2:Nm(:^_)", outcomes := "+-+" } =
          .ok ⟨.probeReport report, entries⟩ ∧
        report.report ≠ [] ∧
        Report.Readable condition.report settings.label report.report := by
  refine ⟨.standard, Settings.load_unset, ?_⟩
  let phrase : Condition.Phrase :=
    { negative := false
      count := .single (unit '2') (by decide) (by decide) (by decide)
      consecutive := false
      options := some [.bothCounts,
        .map (some ⟨none, some ⟨unit '^', unit '_', by decide, by decide⟩, .inr rfl⟩)] }
  have hparse : Condition.parse (.ofNat 100) "2:Nm(:^_)" = .ok (phrase.condition (.ofNat 100)) :=
    Condition.parse_eq_ok_iff_read.mpr (Condition.read_written phrase)
  have haccepted : RunRequest.Accepted { condition := "2:Nm(:^_)", outcomes := "+-+" }
      .standard (phrase.condition (.ofNat 100)) [.success, .failure, .success] none :=
    { condition_eq := hparse
      outcomes_eq := by decide
      count_eq := rfl
      count_range := fun _ hnone => by cases hnone }
  obtain ⟨expect, stop, bound, report, entries, -, -, -, hrun, hempty, hreadable⟩ :=
    run_report_readable_iff Settings.load_unset haccepted
  have hshown : report.report ≠ [] := by
    intro hnil
    exact absurd (hempty.mp hnil).2 (by decide)
  refine ⟨_, report, entries, hparse, hrun, hshown, (hreadable hshown).mpr ?_⟩
  intro map hmap outcome _
  obtain rfl := Option.some.inj hmap
  cases outcome <;> decide

/-- The condition of a single reply, which is shown in a map with the given glyphs. -/
def singleReply (pair : Condition.GlyphPair) : Condition.Phrase where
  negative := false
  count := .single (unit '1') (by decide) (by decide) (by decide)
  consecutive := false
  options := some [.map (some ⟨none, some pair, .inr rfl⟩)]

theorem parse_singleReply (pair : Condition.GlyphPair) :
    Condition.parse (.ofNat 100) (singleReply pair).written =
      .ok ((singleReply pair).condition (.ofNat 100)) :=
  Condition.parse_written (singleReply pair)

/-- The reply meets the condition, and the map has room for it. -/
theorem replayed_singleReply (pair : Condition.GlyphPair) (debugMap : Bool) :
    ∃ tracker summary entries,
      Replayed ((singleReply pair).condition (.ofNat 100)) 1 [.success] none 1 100 tracker ∧
      run .standard { condition := (singleReply pair).written, outcomes := "+", debugMap } =
        .ok ⟨.probeReport (probeReport .standard
          { condition := (singleReply pair).written, outcomes := "+", debugMap } tracker summary),
          entries⟩ := by
  have haccepted : RunRequest.Accepted
      { condition := (singleReply pair).written, outcomes := "+", debugMap }
      .standard ((singleReply pair).condition (.ofNat 100)) [.success] none :=
    { condition_eq := parse_singleReply pair
      outcomes_eq := rfl
      count_eq := rfl
      count_range := fun _ hnone => by cases hnone }
  obtain ⟨expect, stop, bound, tracker, summary, entries, hreplayed, -, hrun⟩ :=
    run_replayed (Settings.load_sized Settings.load_unset) haccepted
  obtain rfl : 1 = expect := Number.ofNat_inj.mp hreplayed.realizable.expect_eq
  have hfirst : Session.FirstMetAt ((singleReply pair).condition (.ofNat 100)) 1 [.success] 1 := by
    refine ⟨Nat.le_refl 1, fun j hj => ?_⟩
    obtain rfl := Nat.lt_one_iff.mp hj
    exact Condition.not_metBy_nil Nat.one_pos
  obtain rfl := hreplayed.stopsAt.eq_of_firstMetAt hfirst (Nat.le_refl 1)
  have hmap : ((singleReply pair).condition (.ofNat 100)).report.map =
      some ⟨.ofNat 100, pair.glyphs⟩ := rfl
  have hattainable : Attainable ((singleReply pair).condition (.ofNat 100)) := by
    intro request hrequest
    obtain rfl := Option.some.inj (hmap.symm.trans hrequest)
    exact (Number.ble_ofNat 100 Allocator.slotLimit).trans (by decide)
  obtain rfl : 100 = bound := Number.ofNat_inj.mp (hreplayed.bound_eq _ hmap hattainable)
  exact ⟨tracker, summary, entries, hreplayed, hrun⟩

/-- A structuring unit can be the glyph of replies, and spoils the report of a single one. -/
theorem exists_unreadable_of_isStructuring {u : CodeUnit} (hu : IsStructuring u) :
    ∃ settings, Settings.load (fun _ => none) = .ok settings ∧
      ∃ condition report entries,
        Condition.parse settings.defaultCapacity (("1:m(:" : Text) ++ [u, unit 'x', unit ')']) =
          .ok condition ∧
        run settings { condition := ("1:m(:" : Text) ++ [u, unit 'x', unit ')'], outcomes := "+" } =
          .ok ⟨.probeReport report, entries⟩ ∧
        report.report ≠ [] ∧
        ¬ Report.Readable condition.report settings.label report.report := by
  have hne : u ≠ unit ')' := by
    rcases hu with rfl | rfl <;> decide
  let pair : Condition.GlyphPair := ⟨u, unit 'x', hne, by decide⟩
  have hfields : ((singleReply pair).condition (.ofNat 100)).report.hasFields = true := rfl
  obtain ⟨tracker, summary, entries, hreplayed, hrun⟩ := replayed_singleReply pair false
  have hline : Report.line Report.standardLabel false tracker.snapshot ≠ [] := by
    intro hnil
    rw [hreplayed.snapshot_eq, Report.line_eq_nil_iff] at hnil
    exact Bool.noConfusion (hfields.symm.trans hnil.2)
  refine ⟨.standard, Settings.load_unset, _, _, entries, parse_singleReply pair, hrun, hline,
    fun hreadable => ?_⟩
  have hflat :=
    (hreplayed.readable_iff (Settings.load_label_isFlat Settings.load_unset) hline).mp hreadable
  have hglyph : IsFlat [u] := hflat _ rfl .success (by decide)
  rcases hu with rfl | rfl
  · exact hglyph.1 (List.mem_singleton_self _)
  · exact hglyph.2 (List.mem_singleton_self _)

/-- **A slash among the glyphs of a map makes a field too many of a report, and a line feed a
second line.** -/
theorem run_report_unreadable :
    (∃ settings, Settings.load (fun _ => none) = .ok settings ∧
      ∃ condition report entries,
        Condition.parse settings.defaultCapacity "1:m(:/x)" = .ok condition ∧
        run settings { condition := "1:m(:/x)", outcomes := "+" } =
          .ok ⟨.probeReport report, entries⟩ ∧
        report.report ≠ [] ∧
        ¬ Report.Readable condition.report settings.label report.report) ∧
    ∃ settings, Settings.load (fun _ => none) = .ok settings ∧
      ∃ condition report entries,
        Condition.parse settings.defaultCapacity "1:m(:\nx)" = .ok condition ∧
        run settings { condition := "1:m(:\nx)", outcomes := "+" } =
          .ok ⟨.probeReport report, entries⟩ ∧
        report.report ≠ [] ∧
        ¬ Report.Readable condition.report settings.label report.report :=
  ⟨exists_unreadable_of_isStructuring (.inl rfl), exists_unreadable_of_isStructuring (.inr rfl)⟩

end Command

end Probing
