import Probing.Number.Basic
import Probing.Text.Basic

/-!
# Storage of outcome maps

An outcome map asks for its slots while it records: a first block when the first outcome arrives,
then larger ones. The answer to a request is a number of empty slots, a refusal the map can live
with, or a failure that ends the recording.
-/

namespace Probing

/-- The answer to a request for slots. -/
inductive Allocation where
  /-- So many empty slots. -/
  | granted (slots : Nat)
  /-- There is no room; the map goes on without it. -/
  | refused (reason : Text)
  /-- Something else went wrong; whoever records has to deal with it. -/
  | failed (reason : Text)
deriving DecidableEq, Repr

/-- A source of slots: what it answers to a requested size. -/
abbrev Allocator := Number → Allocation

namespace Allocator

/-- The largest number of slots that can be had at once. -/
def slotLimit : Nat := 4294967295

/-- The usual source of slots: grants every whole size up to the limit. -/
def standard : Allocator := fun size =>
  match size.toInt? with
  | some n =>
    if 0 ≤ n ∧ n ≤ slotLimit then .granted n.toNat else .refused "Invalid array length"
  | none => .refused "Invalid array length"

end Allocator

/-- How an outcome map obtains its slots. -/
structure Storage where
  /-- The most slots the first request asks for. -/
  initialCeiling : Number := .ofNat 512
  /-- How many slots each later request adds. -/
  growthStep : Number := .ofNat 512
  allocate : Allocator := .standard

end Probing
