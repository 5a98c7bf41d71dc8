import Probing.Condition.Basic

/-!
# Exit status

A condition can ask that the exit code of the run says whether it was met. The status then moves
from unmet to met and never back. Only the two ordinary exit codes give way to it: every other code
stands for a failure of its own and passes through.
-/

namespace Probing

/-- What the exit code of a run has to say about its condition. -/
inductive ExitStatus where
  /-- Nothing: the code stays as it is. -/
  | disabled
  | armedUnmet
  | armedMet
deriving DecidableEq, Repr, Inhabited

namespace ExitStatus

/-- The status at the start of a run. -/
def initial (report : ReportRequest) : ExitStatus :=
  if report.exitStatus then armedUnmet else disabled

/-- The status once the condition is met. -/
def markMet : ExitStatus → ExitStatus
  | armedUnmet => armedMet
  | status => status

/-- The exit code of a run whose tool ended with `code`. -/
def resolve (status : ExitStatus) (code : Number) : Number :=
  if code = .ofNat 0 ∨ code = .ofNat 1 then
    match status with
    | disabled => code
    | armedMet => .ofNat 0
    | armedUnmet => .ofNat 1
  else code

end ExitStatus

end Probing
