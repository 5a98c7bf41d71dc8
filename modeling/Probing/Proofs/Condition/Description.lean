import Probing.Condition.Description
import Probing.Proofs.Condition.Reading
import Probing.Proofs.Number.Decimal

/-!
# Descriptions tell conditions apart

The description of a condition leaves out its text, and whether the label is left out of a report
that has no fields. Everything else can be read off its lines: a count ends at the first unit that
is no digit, and each glyph of a map is a single unit, so that it does not matter what the glyphs
are.

## Main definitions

* `ReportRequest.Alike`, `Condition.Alike`: conditions that differ in nothing but what a description
  leaves out
* `Condition.Plain`: numbers within the range of counts and glyphs of a single unit

## Main results

* `Condition.targetLine_inj`, `Condition.fieldsLine_inj`, `Condition.mapLine_inj`,
  `Condition.exitStatusLine_inj`: what each line tells
* `Condition.describe_eq_iff`: conditions with the same description are alike
-/

namespace Probing

/-! ## Conditions that are alike -/

/-- Two reports with the same fields and the same exit status, and with the same heading if there
are any fields. -/
structure ReportRequest.Alike (report report' : ReportRequest) : Prop where
  exitStatus_eq : report.exitStatus = report'.exitStatus
  showState_eq : report.showState = report'.showState
  showSuccesses_eq : report.showSuccesses = report'.showSuccesses
  showFailures_eq : report.showFailures = report'.showFailures
  map_eq : report.map = report'.map
  silent_eq : (report.hasFields && report.silent) = (report'.hasFields && report'.silent)

theorem ReportRequest.Alike.hasFields_eq {report report' : ReportRequest}
    (h : report.Alike report') : report.hasFields = report'.hasFields := by
  unfold hasFields
  rw [h.showState_eq, h.showSuccesses_eq, h.showFailures_eq, h.map_eq]

namespace Condition

/-- Two conditions that are met at the same time and have reports that are alike. -/
structure Alike (condition condition' : Condition) : Prop where
  expect_eq : condition.expect = condition'.expect
  counting_eq : condition.counting = condition'.counting
  location_eq : condition.location = condition'.location
  report : condition.report.Alike condition'.report

/-- A condition with numbers within the range of counts, and with glyphs of a single unit each. -/
structure Plain (condition : Condition) : Prop where
  expect : ∃ expect ≤ Number.maxCount, condition.expect = .ofNat expect
  map : ∀ request, condition.report.map = some request →
    ∃ capacity ≤ Number.maxCount, ∃ success failure : CodeUnit,
      request = ⟨.ofNat capacity, ⟨[success], [failure]⟩⟩

/-! ## Counts -/

/-- A count that was written is read back, whatever stands behind it. -/
theorem readDigits_ofNat {n : Nat} (hn : n ≤ Number.maxCount) {rest : Text}
    (hrest : NoDigitFirst rest) :
    readDigits 0 0 (Text.ofNat n ++ rest) = .ok ⟨n, (Text.ofNat n).length, rest⟩ :=
  readDigits_eq_ok_iff.mpr ⟨Text.ofNat n, rfl, Text.isSome_digit?_of_mem_ofNat n, hrest,
    (Number.ofDigits_ofNat n).symm, rfl, hn⟩

/-- A count and what stands behind it can be told apart. -/
theorem text_append_inj {n n' : Nat} (hn : n ≤ Number.maxCount) (hn' : n' ≤ Number.maxCount)
    {rest rest' : Text} (hrest : NoDigitFirst rest) (hrest' : NoDigitFirst rest')
    (h : (Number.ofNat n).text ++ rest = (Number.ofNat n').text ++ rest') :
    n = n' ∧ rest = rest' := by
  have hexact : Number.maxCount ≤ Number.exactBound := Nat.sub_le ..
  rw [Number.text_ofNat (Nat.le_trans hn hexact), Number.text_ofNat (Nat.le_trans hn' hexact)] at h
  have hread := (readDigits_ofNat hn hrest).symm.trans (h ▸ readDigits_ofNat hn' hrest')
  injection hread with hrun
  injection hrun with hvalue hlength hbehind
  exact ⟨hvalue, hbehind⟩

/-! ## Lines -/

/-- What stands behind the count in the line about when a condition is met. -/
def targetEnd (location : Location) (counting : Outcome) (single : Bool) : Text :=
  let outcome : Text :=
    match counting with
    | .success => "successful"
    | .failure => "failed"
  let noun : Text := if single then "probe" else "probes"
  match location with
  | .sequence => " consecutive " ++ outcome ++ " " ++ noun
  | .cumulative => " " ++ outcome ++ " " ++ noun ++ " in total"

theorem targetLine_eq (condition : Condition) :
    targetLine condition = "Met after " ++ (condition.expect.text ++
      targetEnd condition.location condition.counting (condition.expect = .ofNat 1)) := by
  unfold targetLine targetEnd
  cases condition.location <;> cases condition.counting <;> simp [List.append_assoc]

theorem targetEnd_noDigitFirst (location : Location) (counting : Outcome) (single : Bool) :
    NoDigitFirst (targetEnd location counting single) := by
  have hspace : digit? (unit ' ') = none := by decide
  cases location <;> exact noDigitFirst_cons hspace

theorem targetEnd_inj {location location' : Location} {counting counting' : Outcome}
    {single : Bool}
    (h : targetEnd location counting single = targetEnd location' counting' single) :
    location = location' ∧ counting = counting' := by
  cases location <;> cases location' <;> cases counting <;> cases counting' <;> cases single <;>
    revert h <;> decide

/-- **The first line** tells when a condition is met. -/
theorem targetLine_inj {condition condition' : Condition} (hplain : condition.Plain)
    (hplain' : condition'.Plain) (h : targetLine condition = targetLine condition') :
    condition.expect = condition'.expect ∧ condition.counting = condition'.counting ∧
      condition.location = condition'.location := by
  obtain ⟨expect, hle, hexpect⟩ := hplain.expect
  obtain ⟨expect', hle', hexpect'⟩ := hplain'.expect
  rw [targetLine_eq, targetLine_eq, hexpect, hexpect'] at h
  obtain ⟨rfl, hend⟩ := text_append_inj hle hle' (targetEnd_noDigitFirst _ _ _)
    (targetEnd_noDigitFirst _ _ _) (List.append_cancel_left h)
  obtain ⟨hlocation, hcounting⟩ := targetEnd_inj hend
  exact ⟨hexpect.trans hexpect'.symm, hcounting, hlocation⟩

/-- **The second line** tells the fields of the report. -/
theorem fieldsLine_inj {report report' : ReportRequest}
    (h : fieldsLine report = fieldsLine report') :
    report.showState = report'.showState ∧ report.showSuccesses = report'.showSuccesses ∧
      report.showFailures = report'.showFailures ∧ report.map.isSome = report'.map.isSome := by
  unfold fieldsLine fieldNames at h
  -- The line is a function of four flags, and all of its values differ.
  generalize report.showState = state, report'.showState = state' at *
  generalize report.showSuccesses = successes, report'.showSuccesses = successes' at *
  generalize report.showFailures = failures, report'.showFailures = failures' at *
  generalize report.map.isSome = map, report'.map.isSome = map' at *
  revert state state' successes successes' failures failures' map map'
  decide +kernel

/-- **The line about the map** tells how large it is and what it is written with. -/
theorem mapLine_inj {capacity capacity' : Nat} (hle : capacity ≤ Number.maxCount)
    (hle' : capacity' ≤ Number.maxCount) {success success' failure failure' : CodeUnit}
    (h : mapLine ⟨.ofNat capacity, ⟨[success], [failure]⟩⟩ =
      mapLine ⟨.ofNat capacity', ⟨[success'], [failure']⟩⟩) :
    capacity = capacity' ∧ success = success' ∧ failure = failure' := by
  simp only [mapLine, List.append_assoc, List.cons_append, List.nil_append] at h
  have hspace : NoDigitFirst (" outcomes, '" : Text) := by
    intro u hu
    obtain rfl := Option.some.inj hu
    decide
  have hne : (" outcomes, '" : Text) ≠ [] := by decide
  obtain ⟨hcapacity, hend⟩ := text_append_inj hle hle' (hspace.append hne _)
    (hspace.append hne _) (List.append_cancel_left h)
  obtain ⟨hsuccess, hend⟩ := List.cons.inj (List.append_cancel_left hend)
  obtain ⟨hfailure, -⟩ := List.cons.inj (List.append_cancel_left hend)
  exact ⟨hcapacity, hsuccess, hfailure⟩

/-- **The last line** tells whether the exit status speaks for the condition. -/
theorem exitStatusLine_inj {report report' : ReportRequest}
    (h : exitStatusLine report = exitStatusLine report') :
    report.exitStatus = report'.exitStatus := by
  unfold exitStatusLine at h
  generalize report.exitStatus = armed, report'.exitStatus = armed' at *
  revert armed armed'
  decide

/-! ## Descriptions -/

/-- Of the lines behind the first two, only the last is always there. If the one in the middle is
there in both descriptions or in neither, all three can be told apart. -/
theorem lines_inj {label last last' : Text} {shown shown' : Bool} {middle middle' : Option Text}
    (hmiddle : middle.isSome = middle'.isSome)
    (h : Text.onlyIf shown label ++ middle.toList ++ [last] =
      Text.onlyIf shown' label ++ middle'.toList ++ [last']) :
    shown = shown' ∧ middle = middle' ∧ last = last' := by
  obtain ⟨hfront, hlast⟩ := List.append_inj' h rfl
  have hlength : middle.toList.length = middle'.toList.length := by
    rw [Option.length_toList, Option.length_toList, hmiddle]
  obtain ⟨hshown, hsame⟩ := List.append_inj' hfront hlength
  have hhead := congrArg List.head? hsame
  rw [Option.head?_toList, Option.head?_toList] at hhead
  refine ⟨?_, hhead, List.singleton_inj.mp hlast⟩
  cases shown <;> cases shown'
  · rfl
  · cases hshown
  · cases hshown
  · rfl

/-- The line about the map tells the map. -/
theorem map_eq_of_mapLine {condition condition' : Condition} (hplain : condition.Plain)
    (hplain' : condition'.Plain)
    (h : condition.report.map.map mapLine = condition'.report.map.map mapLine) :
    condition.report.map = condition'.report.map := by
  cases hmap : condition.report.map with
  | none =>
    rw [hmap, Option.map_none, eq_comm, Option.map_eq_none_iff] at h
    exact h.symm
  | some request =>
    rw [hmap, Option.map_some, eq_comm, Option.map_eq_some_iff] at h
    obtain ⟨request', hmap', hline⟩ := h
    obtain ⟨capacity, hle, success, failure, rfl⟩ := hplain.map request hmap
    obtain ⟨capacity', hle', success', failure', rfl⟩ := hplain'.map request' hmap'
    obtain ⟨rfl, rfl, rfl⟩ := mapLine_inj hle' hle hline
    exact hmap'.symm

/-- **Conditions with the same description are alike**, and the other way round. -/
theorem describe_eq_iff {condition condition' : Condition} (hplain : condition.Plain)
    (hplain' : condition'.Plain) :
    condition.describe = condition'.describe ↔ condition.Alike condition' := by
  constructor
  · intro h
    obtain ⟨htarget, hbehind⟩ := List.cons.inj h
    obtain ⟨hfields, hbehind⟩ := List.cons.inj hbehind
    obtain ⟨hexpect, hcounting, hlocation⟩ := targetLine_inj hplain hplain' htarget
    obtain ⟨hstate, hsuccesses, hfailures, hsome⟩ := fieldsLine_inj hfields
    obtain ⟨hsilent, hmap, hstatus⟩ := lines_inj (by simpa using hsome) hbehind
    exact ⟨hexpect, hcounting, hlocation,
      ⟨exitStatusLine_inj hstatus, hstate, hsuccesses, hfailures,
        map_eq_of_mapLine hplain hplain' hmap, hsilent⟩⟩
  · rintro ⟨hexpect, hcounting, hlocation, hreport⟩
    have htarget : targetLine condition = targetLine condition' := by
      rw [targetLine_eq, targetLine_eq, hexpect, hcounting, hlocation]
    have hnames : fieldNames condition.report = fieldNames condition'.report := by
      unfold fieldNames
      rw [hreport.showState_eq, hreport.showSuccesses_eq, hreport.showFailures_eq, hreport.map_eq]
    unfold describe fieldsLine exitStatusLine
    dsimp only
    rw [htarget, hnames, hreport.silent_eq, hreport.map_eq, hreport.exitStatus_eq]

end Condition

end Probing
