import Probing.OutcomeMap.Basic

/-!
# Reading outcome maps

What a map shows: the recorded outcomes from the oldest to the newest, the slots as they lie in
storage, and the figures of its state. Reading changes nothing.
-/

namespace Probing.OutcomeMap

/-- The number of slots. -/
def capacity (map : OutcomeMap) : Nat :=
  (map.slots.map Array.size).getD 0

/-- The last slot has been written since the slots were last extended. -/
def hasWrapped (map : OutcomeMap) : Bool :=
  match map.slots with
  | none => false
  | some slots => slots.back? ≠ some []

/-- The recorded outcomes, the oldest first. Once the last slot was written the oldest one is at the
write position, unless that is past the end. -/
def render (map : OutcomeMap) : Text :=
  match map.slots with
  | none => []
  | some slots =>
    let cells := slots.toList
    if map.hasWrapped && decide (map.writePos < slots.size) then
      (cells.drop map.writePos).flatten ++ (cells.take map.writePos).flatten
    else (cells.take map.writePos).flatten

/-- The slots in storage order, unwritten ones as spaces, with a caret under the write position in a
second line. -/
def renderSlots (map : OutcomeMap) : Text :=
  let cells := (map.slots.map Array.toList).getD []
  (cells.map fun glyph => if glyph = [] then [unit ' '] else glyph).flatten
    ++ unit '\n' :: List.replicate map.writePos (unit ' ') ++ [unit '^']

end Probing.OutcomeMap
