import Probing.Proofs.Command.ReportLine
import Probing.Proofs.OutcomeMap.Characters

/-!
# Characters in the views of a run

A condition text is cut into units, and two of them are the glyphs of its map. In a text of whole
characters these are two characters, unless a single one stands where two are expected: then they
are its halves. Everything else that a report or a debug map shows is made of whole characters, the
label apart. They are therefore well-formed exactly if the glyphs are whole, or the outcomes shown
bring the halves together.

## Main definitions

* `Condition.HasMatchingGlyphs`: glyphs that are two characters or the halves of one
* `Command.ShowsCharacters`: outcomes that are shown as whole characters

## Main results

* `Condition.parse_hasMatchingGlyphs`: the glyphs of a well-formed condition text
* `Report.line_wellFormed_iff`: a report is well-formed if its label and its map are
* `Command.run_wellFormed_iff`: when the report and the debug map of a run are well-formed
* `Command.run_ill_formed`: glyphs that make them ill-formed
-/

namespace Probing

open Text

/-! ## The glyphs of a condition -/

namespace Condition

/-- A token stands somewhere in the text of its phrase. -/
theorem Phrase.exists_written_eq {phrase : Phrase} {token : Token} (h : token ∈ phrase.tokens) :
    ∃ before after, phrase.written = before ++ token.written ++ after := by
  unfold Phrase.tokens at h
  cases hoptions : phrase.options with
  | none =>
    rw [hoptions] at h
    cases h
  | some tokens =>
    rw [hoptions] at h
    obtain ⟨before, after, rfl⟩ := List.append_of_mem h
    refine ⟨(if phrase.negative then [unit '-'] else []) ++ phrase.count.digits ++
      ((if phrase.consecutive then [unit 's'] else []) ++
        unit ':' :: before.flatMap Token.written), after.flatMap Token.written, ?_⟩
    simp [Phrase.written, Phrase.writtenTail, hoptions]

/-- The glyphs of the map of a condition, if it has one, are two characters or the halves of one. -/
def HasMatchingGlyphs (condition : Condition) : Prop :=
  ∀ request, condition.report.map = some request →
    request.glyphs.AreWhole ∨ request.glyphs.AreHalves

/-- **The glyphs of a well-formed text** are two characters or the halves of one. -/
theorem parse_hasMatchingGlyphs {defaultCapacity : Number} {text : Text} {condition : Condition}
    (h : parse defaultCapacity text = .ok condition) (htext : text.WellFormed) :
    condition.HasMatchingGlyphs := by
  intro request hmap
  obtain ⟨phrase, token, rfl, hmem, htoken⟩ := exists_token_of_parse h hmap
  match token, hmem, htoken with
  | .map none, _, htoken =>
    obtain rfl := Option.some.inj htoken
    exact .inl Glyphs.standard_areWhole
  | .map (some ⟨size, none, nonempty⟩), _, htoken =>
    obtain rfl := Option.some.inj htoken
    exact .inl Glyphs.standard_areWhole
  | .map (some ⟨size, some pair, nonempty⟩), hmem, htoken =>
    obtain rfl := Option.some.inj htoken
    obtain ⟨before, after, hwritten⟩ := Phrase.exists_written_eq hmem
    have hsplit : phrase.written =
        (before ++ unit 'm' :: unit '(' :: size.elim [] Numeral.digits) ++ unit ':' ::
          ([pair.success, pair.failure] ++ unit ')' :: after) := by
      rw [hwritten]
      simp [Token.written, MapArguments.written, GlyphPair.written]
    rw [hsplit] at htext
    have hopened := ((wellFormed_append_cons_iff (by decide)).mp htext).2
    have hpair := ((wellFormed_append_cons_iff (by decide)).mp hopened).1
    exact Glyphs.areWhole_or_areHalves hpair

end Condition

/-! ## Reports -/

theorem Number.text_wellFormed (n : Number) : n.text.WellFormed := by
  have halphabet : alphabet.all CodeUnit.isWhole = true := by decide
  exact wellFormed_of_forall fun u hu => List.all_eq_true.mp halphabet u (n.text_subset hu)

namespace Report

variable {snapshot : Tracker.Snapshot} {label : Text} {force : Bool}

/-- All fields but the map are well-formed. -/
theorem fields_wellFormed_iff :
    (∀ field ∈ fields snapshot, field.WellFormed) ↔
      ∀ map, snapshot.map = some map → map.WellFormed := by
  obtain ⟨front, hfields, hfront⟩ := exists_fields_eq snapshot (wellFormed_ofString "T")
    (wellFormed_ofString "F") Number.text_wellFormed
  rw [hfields, List.forall_mem_append]
  simp only [Option.mem_toList]
  exact and_iff_right hfront

/-- **A report is well-formed if its label and its map are.** -/
theorem line_wellFormed_iff (hline : line label force snapshot ≠ []) :
    WellFormed (line label force snapshot) ↔
      (snapshot.request.silent = false → label.WellFormed) ∧
        ∀ map, snapshot.map = some map → map.WellFormed := by
  have hslash : ("/" : Text) = [unit '/'] := by decide
  have hfeed : ("\n" : Text) = [unit '\n'] := by decide
  have hcolon : (":" : Text) = [unit ':'] := by decide
  have hbody : WellFormed (join "/" (fields snapshot)) ↔
      ∀ map, snapshot.map = some map → map.WellFormed := by
    rw [hslash, wellFormed_join_iff (by decide), fields_wellFormed_iff]
  rw [line_eq_of_ne_nil hline, hfeed, wellFormed_append_cons_iff (by decide), heading]
  cases hsilent : snapshot.request.silent with
  | true => simp [hbody, WellFormed.nil]
  | false =>
    simp only [Bool.false_eq_true, if_false, forall_const]
    rw [hcolon, List.append_assoc, List.singleton_append, wellFormed_append_cons_iff (by decide),
      hbody]
    exact and_iff_left .nil

end Report

/-! ## Runs -/

namespace Command

variable {settings : Settings} {request : RunRequest} {condition : Condition}
  {outcomes : List Outcome} {count : Option Nat} {expect stop bound : Nat} {tracker : Tracker}

/-- The map of a condition, if it has one, shows whole characters of so many outcomes. -/
def ShowsCharacters (condition : Condition) (shown : List Outcome) : Prop :=
  ∀ map, condition.report.map = some map → map.glyphs.AreWhole ∨ Outcome.paired shown = true

/-- A shown map is well-formed exactly if it shows whole characters. -/
theorem shownMap_wellFormed_iff (hglyphs : condition.HasMatchingGlyphs) :
    (∀ view, shownMap condition bound outcomes = some view → view.WellFormed) ↔
      ShowsCharacters condition (outcomes.rtake bound) := by
  unfold shownMap ShowsCharacters
  cases hmap : condition.report.map with
  | none => simp
  | some map => simp [OutcomeMap.window_wellFormed_iff (hglyphs map hmap)]

/-- The report of a tracker that has replayed outcomes. -/
theorem Replayed.report_wellFormed_iff
    (h : Replayed condition expect outcomes count stop bound tracker)
    (hglyphs : condition.HasMatchingGlyphs) (label : Text) (force : Bool) :
    WellFormed (Report.line label force tracker.snapshot) ↔
      (Report.line label force tracker.snapshot ≠ [] → condition.report.silent = false →
        label.WellFormed) ∧
      ShowsCharacters condition ((outcomes.take stop).rtake bound) := by
  rw [h.snapshot_eq]
  by_cases hline : Report.line label force (.ofHistory condition expect
      (shownMap condition bound (outcomes.take stop)) (outcomes.take stop)) = []
  · have hfields : condition.report.hasFields = false := (Report.line_eq_nil_iff.mp hline).2
    have hmap : condition.report.map = none := by
      simpa using (Bool.or_eq_false_iff.mp hfields).2
    rw [hline, ShowsCharacters, hmap]
    simp [WellFormed.nil]
  · rw [Report.line_wellFormed_iff hline, ← shownMap_wellFormed_iff hglyphs]
    exact and_congr_left' ⟨fun hlabel _ => hlabel, fun hlabel => hlabel hline⟩

/-- The debug map of a tracker that has replayed outcomes. -/
theorem Replayed.debugMap_wellFormed_iff
    (h : Replayed condition expect outcomes count stop bound tracker)
    (hglyphs : condition.HasMatchingGlyphs) :
    ∃ stored, Ring.Arranged bound (outcomes.take stop) stored ∧
      (WellFormed (debugMapOf tracker) ↔ ShowsCharacters condition stored) := by
  obtain ⟨stored, missing, position, hstored, hslots⟩ := h.slots_eq
  refine ⟨stored, hstored, ?_⟩
  rw [hslots]
  unfold shownSlots ShowsCharacters
  cases hmap : condition.report.map with
  | none => simp [wellFormed_ofString]
  | some map => simp [OutcomeMap.slotsView_wellFormed_iff (hglyphs map hmap)]

/-- **When the report and the debug map of a run are well-formed.** The glyphs of a well-formed
condition text are two characters or the halves of one. The report is well-formed if the label in it
is, and the glyphs are whole or the outcomes in the map bring their halves together: successes and
failures in turns. The same holds of the debug map and the outcomes in storage order. -/
theorem run_wellFormed_iff {environment : Environment}
    (hload : Settings.load environment = .ok settings)
    (h : request.Accepted settings condition outcomes count)
    (htext : request.condition.WellFormed) :
    condition.HasMatchingGlyphs ∧
    ∃ expect stop bound stored report entries, condition.expect = .ofNat expect ∧
      Session.StopsAt condition expect outcomes (Session.bound count outcomes.length) stop ∧
      (∀ map, condition.report.map = some map → Attainable condition →
        map.maxCapacity = .ofNat bound) ∧
      Ring.Arranged bound (outcomes.take stop) stored ∧
      run settings request = .ok ⟨.probeReport report, entries⟩ ∧
      (report.report.WellFormed ↔
        (report.report ≠ [] → condition.report.silent = false → settings.label.WellFormed) ∧
        ShowsCharacters condition ((outcomes.take stop).rtake bound)) ∧
      report.debugMap.isSome = request.debugMap ∧
      ∀ view, report.debugMap = some view →
        (view.WellFormed ↔ ShowsCharacters condition stored) := by
  have hglyphs := Condition.parse_hasMatchingGlyphs h.condition_eq htext
  obtain ⟨expect, stop, bound, tracker, summary, entries, hreplayed, -, hrun⟩ :=
    run_replayed (Settings.load_sized hload) h
  obtain ⟨stored, hstored, hdebug⟩ := hreplayed.debugMap_wellFormed_iff hglyphs
  refine ⟨hglyphs, expect, stop, bound, stored, _, entries, hreplayed.realizable.expect_eq,
    hreplayed.stopsAt, hreplayed.bound_eq, hstored, hrun,
    hreplayed.report_wellFormed_iff hglyphs _ _, ?_, ?_⟩
  · rw [probeReport]
    cases request.debugMap <;> rfl
  · intro view hview
    obtain ⟨-, hview⟩ := Option.ite_none_right_eq_some.mp hview
    rw [← Option.some.inj hview]
    exact hdebug

/-- Where a reply is directly followed by a loss, the halves of a character come together again. -/
theorem run_wellFormed_reply_and_loss :
    ∃ settings, Settings.load (fun _ => none) = .ok settings ∧
      WellFormed "2:m(:😀)" ∧
      ∃ condition report entries,
        Condition.parse settings.defaultCapacity "2:m(:😀)" = .ok condition ∧
        run settings { condition := "2:m(:😀)", outcomes := "+-" } =
          .ok ⟨.probeReport report, entries⟩ ∧
        report.report.WellFormed := by
  refine ⟨.standard, Settings.load_unset, wellFormed_ofString _, ?_⟩
  let phrase : Condition.Phrase :=
    { negative := false
      count := .single (unit '2') (by decide) (by decide) (by decide)
      consecutive := false
      options := some [.map (some ⟨none, some ⟨0xD83D, 0xDE00, by decide, by decide⟩, .inr rfl⟩)] }
  have hparse : Condition.parse (.ofNat 100) "2:m(:😀)" = .ok (phrase.condition (.ofNat 100)) :=
    Condition.parse_eq_ok_iff_read.mpr (Condition.read_written phrase)
  have haccepted : RunRequest.Accepted { condition := "2:m(:😀)", outcomes := "+-" }
      .standard (phrase.condition (.ofNat 100)) [.success, .failure] none :=
    { condition_eq := hparse
      outcomes_eq := by decide
      count_eq := rfl
      count_range := fun _ hnone => by cases hnone }
  obtain ⟨-, expect, stop, bound, stored, report, entries, hexpect, hstop, hbound, -, hrun, hreport,
    -⟩ := run_wellFormed_iff Settings.load_unset haccepted (wellFormed_ofString _)
  refine ⟨_, report, entries, hparse, hrun, hreport.mpr ⟨fun _ _ => wellFormed_ofString _, ?_⟩⟩
  obtain rfl : 2 = expect := Number.ofNat_inj.mp hexpect
  have hunmet : ∀ k ≤ 2, ¬ (phrase.condition (.ofNat 100)).MetBy 2
      ([.success, .failure].take k) := by decide
  obtain ⟨rfl, -⟩ := hstop.eq_bound fun k hk hfirst => hunmet k hk hfirst.1
  have hattainable : Attainable (phrase.condition (.ofNat 100)) := by
    intro map hmap
    obtain rfl := Option.some.inj hmap
    exact (Number.ble_ofNat 100 Allocator.slotLimit).trans (by decide)
  obtain rfl : 100 = bound := Number.ofNat_inj.mp (hbound _ rfl hattainable)
  exact fun _ _ => .inr rfl

/-- **A character outside the basic plane is cut in two**: as the two glyphs of a map it makes the
report and the debug map of a single reply ill-formed. -/
theorem run_ill_formed :
    ∃ settings, Settings.load (fun _ => none) = .ok settings ∧
      WellFormed "1:m(:😀)" ∧
      ∃ condition map report view entries,
        Condition.parse settings.defaultCapacity "1:m(:😀)" = .ok condition ∧
        condition.report.map = some map ∧ ¬ map.glyphs.AreWhole ∧
        run settings { condition := "1:m(:😀)", outcomes := "+", debugMap := true } =
          .ok ⟨.probeReport report, entries⟩ ∧
        ¬ report.report.WellFormed ∧ report.debugMap = some view ∧ ¬ view.WellFormed := by
  refine ⟨.standard, Settings.load_unset, wellFormed_ofString _, ?_⟩
  let pair : Condition.GlyphPair := ⟨0xD83D, 0xDE00, by decide, by decide⟩
  have hhalves : pair.glyphs.AreHalves := ⟨0xD83D, 0xDE00, rfl, rfl, rfl⟩
  have hglyphs : ((singleReply pair).condition (.ofNat 100)).HasMatchingGlyphs := by
    intro map hmap
    obtain rfl := Option.some.inj hmap
    exact .inr hhalves
  have hhalf : ¬ ShowsCharacters ((singleReply pair).condition (.ofNat 100)) [.success] := by
    intro hshows
    rcases hshows _ rfl with hwhole | hpaired
    · exact hhalves.not_areWhole hwhole
    · cases hpaired
  obtain ⟨tracker, summary, entries, hreplayed, hrun⟩ := replayed_singleReply pair true
  obtain ⟨stored, hstored, hdebug⟩ := hreplayed.debugMap_wellFormed_iff hglyphs
  obtain rfl : stored = [.success] := hstored.eq_of_le (by decide)
  refine ⟨_, _, _, debugMapOf tracker, entries, parse_singleReply pair, rfl, hhalves.not_areWhole,
    hrun, fun hreport => ?_, rfl, fun hview => hhalf (hdebug.mp hview)⟩
  exact hhalf ((hreplayed.report_wellFormed_iff hglyphs _ _).mp hreport).2

end Command

end Probing
