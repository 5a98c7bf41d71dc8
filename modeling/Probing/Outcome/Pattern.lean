import Probing.Outcome.Basic
import Probing.Text.Blank

/-!
# Outcome patterns

A list of outcomes is written with `+` for a reply and `-` for a lost probe. Blanks may stand
anywhere, so that long patterns can be grouped.

## Main definitions

* `Outcome.Pattern.read`: the outcomes of a pattern, or everything that is wrong with it
* `Outcome.Pattern.write`: the pattern of a list of outcomes
-/

namespace Probing.Outcome.Pattern

/-- What can be wrong with a pattern. -/
inductive Issue where
  /-- Nothing but blanks. -/
  | empty
  /-- Not one or more signs. -/
  | alphabet
deriving DecidableEq, Repr

/-- The wording of an issue. -/
def Issue.message : Issue → Text
  | empty => "pattern must contain at least one outcome"
  | alphabet => "pattern may only contain '+' (reply) and '-' (lost)"

/-- The outcome a sign stands for. -/
def outcome? (u : CodeUnit) : Option Outcome :=
  if u = unit '+' then some .success else if u = unit '-' then some .failure else none

/-- The sign of an outcome. -/
def sign : Outcome → CodeUnit
  | .success => unit '+'
  | .failure => unit '-'

/-- The outcomes of a pattern. An empty pattern is also no string of signs, and both issues are
named. -/
def read (pattern : Text) : Except (List Issue) (List Outcome) :=
  let signs := pattern.removeBlanks
  if signs = [] then .error [.empty, .alphabet]
  else
    match signs.mapM outcome? with
    | some outcomes => .ok outcomes
    | none => .error [.alphabet]

/-- The pattern of a list of outcomes, without blanks. -/
def write (outcomes : List Outcome) : Text :=
  outcomes.map sign

end Probing.Outcome.Pattern
