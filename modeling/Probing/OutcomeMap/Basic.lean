import Probing.Condition.Basic
import Probing.Number.Decimal
import Probing.OutcomeMap.Storage

/-!
# Outcome maps

An outcome map keeps the glyphs of the last outcomes of a run, at most as many as its capacity. It
starts without slots, asks for some when the first outcome arrives, and asks for more whenever the
slots are full and the capacity is not reached. A refused first request switches the map off; a
refused later one makes the present number of slots its capacity. Once the slots are full for good
the next outcome goes to the first slot again and overwrites the oldest.

## Main definitions

* `OutcomeMap`, `OutcomeMap.create`: a map and its checked beginning
* `OutcomeMap.Event`: what happens to the storage
* `OutcomeMap.record`: one more outcome
-/

namespace Probing

/-- A bounded record of the last outcomes. -/
structure OutcomeMap where
  glyphs : Glyphs
  storage : Storage
  /-- The most outcomes the map will hold. -/
  maxCapacity : Nat
  /-- The slots, none before the first outcome. An empty text marks a slot that was never
  written. -/
  slots : Option (Array Text) := none
  /-- One past the slot written last. -/
  writePos : Nat := 0
  /-- The map still records. -/
  enabled : Bool := true

namespace OutcomeMap

/-! ## Creation -/

/-- Why no map can be made. -/
inductive Invalid where
  | capacity (given : Number)
  | growth
deriving DecidableEq

/-- The wording of a refusal to make a map. -/
def Invalid.message : Invalid → Text
  | capacity given => "RingMap maxCapacity must be a positive integer, got " ++ given.text
  | growth => "RingMap initialCeiling and growthStep must be positive"

/-- An empty map. The capacity has to be a positive integer; the ceiling and the step must not be
less than one. -/
def create (maxCapacity : Number) (glyphs : Glyphs) (storage : Storage) :
    Except Invalid OutcomeMap :=
  match maxCapacity.positiveInteger? with
  | none => .error (.capacity maxCapacity)
  | some n =>
    if storage.initialCeiling.blt (.ofNat 1) || storage.growthStep.blt (.ofNat 1) then
      .error .growth
    else .ok { glyphs, storage, maxCapacity := n }

/-! ## Recording -/

/-- What happens to the storage of a map. -/
inductive Event where
  | allocated (capacity : Number) (maxCapacity : Nat)
  | allocationRefused (reason : Text) (capacity : Number)
  | extended (before : Nat) (after : Number) (maxCapacity : Nat)
  | growthRefused (reason : Text) (capacity : Nat) (requested : Number)
deriving DecidableEq

/-- The outcome of a step on a map: the map afterwards, what happened to its storage, and the reason
if the source of slots failed. -/
structure Step where
  map : OutcomeMap
  events : List Event := []
  failure : Option Text := none

/-- The size of the first request. -/
def firstRequest (map : OutcomeMap) : Number :=
  Number.min map.maxCapacity map.storage.initialCeiling

/-- The size of a later request from `capacity` slots. -/
def growthRequest (map : OutcomeMap) (capacity : Nat) : Number :=
  Number.min (Number.add capacity map.storage.growthStep) map.maxCapacity

/-- Asks for the first slots. -/
def acquire (map : OutcomeMap) : Step :=
  let size := map.firstRequest
  match map.storage.allocate size with
  | .granted n =>
    { map := { map with slots := some (Array.replicate n []) }
      events := [.allocated size map.maxCapacity] }
  | .refused reason =>
    { map := { map with enabled := false }, events := [.allocationRefused reason size] }
  | .failed reason => { map, failure := some reason }

/-- Asks for more slots than the given ones, unless the capacity is reached. What was recorded keeps
its place, and new slots follow it. -/
def grow (map : OutcomeMap) (slots : Array Text) : Step :=
  if map.maxCapacity ≤ slots.size then { map }
  else
    let size := map.growthRequest slots.size
    match map.storage.allocate size with
    | .granted n =>
      { map := { map with slots := some (slots ++ Array.replicate (n - slots.size) []) }
        events := [.extended slots.size size map.maxCapacity] }
    | .refused reason =>
      { map := { map with maxCapacity := slots.size }
        events := [.growthRefused reason slots.size size] }
    | .failed reason => { map, failure := some reason }

/-- The slots with a glyph written at a position, which is at most their number. -/
def put (slots : Array Text) (position : Nat) (glyph : Text) : Array Text :=
  if h : position < slots.size then slots.set position glyph h else slots.push glyph

/-- Writes a glyph at the write position, or into the first slot when that position is past the
last. -/
def write (map : OutcomeMap) (glyph : Text) : OutcomeMap :=
  match map with
  | { glyphs, storage, maxCapacity, slots, writePos, enabled } =>
    let slots := slots.getD #[]
    let position := if writePos = slots.size then 0 else writePos
    { glyphs, storage, maxCapacity, slots := some (put slots position glyph)
      writePos := position + 1, enabled }

/-- Records an outcome in a map that has slots, growing it first when it is full. -/
def append (map : OutcomeMap) (slots : Array Text) (outcome : Outcome) : Step :=
  let glyph := map.glyphs.ofOutcome outcome
  if map.writePos = slots.size then
    let grown := grow map slots
    match grown.failure with
    | some _ => grown
    | none => { grown with map := grown.map.write glyph }
  else { map := map.write glyph }

/-- Records one outcome. A map that is switched off ignores it. -/
def record (map : OutcomeMap) (outcome : Outcome) : Step :=
  if !map.enabled then { map }
  else
    match map.slots with
    | some slots => map.append slots outcome
    | none =>
      let first := map.acquire
      match first.map.slots with
      | none => first
      | some slots =>
        let step := first.map.append slots outcome
        { step with events := first.events ++ step.events }

end OutcomeMap

end Probing
