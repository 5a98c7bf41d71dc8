import Probing.Command.Run
import Probing.Condition.Description

/-!
# The describe command

Reads a condition and explains what it does.
-/

namespace Probing.Command

/-- The describe command. -/
def describe (settings : Settings) (text : Text) : Result :=
  match Condition.parse settings.defaultCapacity text with
  | .error defect => conditionFailure defect
  | .ok condition =>
    .success (some
      { message := "Exit condition '" ++ text ++ "'"
        details := some condition.describe })

end Probing.Command
