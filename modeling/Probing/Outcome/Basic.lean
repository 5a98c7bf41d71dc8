/-!
# Probe outcomes

A completed probe either got its reply or was lost.
-/

namespace Probing

/-- The outcome of one completed probe. -/
inductive Outcome where
  /-- A reply came back. -/
  | success
  /-- The probe was lost. -/
  | failure
deriving DecidableEq, Repr, Inhabited

namespace Outcome

/-- The other outcome. -/
def opposite : Outcome → Outcome
  | success => failure
  | failure => success

end Outcome

end Probing
