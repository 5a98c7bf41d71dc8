import Probing.Condition.Basic
import Probing.Log.Level
import Probing.Number.Numeral
import Probing.OutcomeMap.Storage
import Probing.Report

/-!
# Settings

Five environment variables configure the program. Each is checked on its own, an absent one has a
standard value, and the issues of all of them are reported together.

## Main definitions

* `Environment`: the variables the program looks at
* `Settings`: the values it works with
* `Settings.load`: the settings of an environment, or everything that is wrong with it
-/

namespace Probing

/-- An environment variable that has an effect. -/
inductive Variable where
  | logLevel
  | defaultCapacity
  | initialCeiling
  | growthStep
  | reportLabel
  /-- Set by a test runner. -/
  | testRunner
  /-- The kind of deployment. -/
  | deployment
deriving DecidableEq, Repr

namespace Variable

/-- Every variable. -/
def all : List Variable :=
  [logLevel, defaultCapacity, initialCeiling, growthStep, reportLabel, testRunner, deployment]

/-- The name of a variable. -/
def name : Variable → String
  | logLevel => "PROBECOND_LOG_LEVEL"
  | defaultCapacity => "PROBECOND_MAP_DEFAULT_CAPACITY"
  | initialCeiling => "PROBECOND_MAP_INITIAL_CEILING"
  | growthStep => "PROBECOND_MAP_GROWTH_STEP"
  | reportLabel => "PROBECOND_REPORT_LABEL"
  | testRunner => "VITEST"
  | deployment => "NODE_ENV"

end Variable

/-- The values of the variables that are set. -/
abbrev Environment := Variable → Option Text

/-- The settings of a run. A level is kept by name, since settings that were not loaded from an
environment may name one that does not exist. -/
structure Settings where
  level : Text
  /-- The capacity of maps without a size. -/
  defaultCapacity : Number
  /-- The most slots that a map asks for at first. -/
  initialCeiling : Number
  /-- How many slots a map asks for later. -/
  growthStep : Number
  /-- The label of reports. -/
  label : Text
deriving DecidableEq

namespace Settings

/-- What can be wrong with the value of a variable. -/
inductive Problem where
  /-- No level has this name, given in lower case. -/
  | unknownLevel (given : Text)
  | notANumber
  | notAnInteger
  | tooSmall
  | tooLarge
  | emptyLabel
  /-- The label is empty, or it contains a character that structures the report. -/
  | labelAlphabet
deriving DecidableEq

/-- A problem with a variable. -/
structure Issue where
  variableName : Variable
  problem : Problem
deriving DecidableEq

/-- The largest size that can be configured. -/
def maxSize : Nat := 1048576

/-- The wording of an issue. -/
def Issue.message (issue : Issue) : Text :=
  let name := Text.ofString issue.variableName.name
  match issue.problem with
  | .unknownLevel given =>
    "Invalid enum value. Expected 'trace' | 'debug' | 'info' | 'warn' | 'error' | 'fatal' | "
      ++ "'silent', received '" ++ given ++ "'"
  | .notANumber => "Expected number, received nan"
  | .notAnInteger => name ++ " must be an integer"
  | .tooSmall => name ++ " must be >= 1"
  | .tooLarge => name ++ " cannot exceed 1048576"
  | .emptyLabel => name ++ " cannot be empty"
  | .labelAlphabet => name ++ " cannot contain '/' or newlines"

/-! ## One variable -/

/-- The log level a text names, in any case. -/
def readLevel : Option Text → Except (List Problem) Log.Level
  | none => .ok .silent
  | some given =>
    let small := given.lowercase
    match Log.Level.ofName? small with
    | some level => .ok level
    | none => .error [.unknownLevel small]

/-- Everything that keeps a number from being a size. -/
def sizeProblems (size : Number) : List Problem :=
  if size = .nan then [.notANumber]
  else
    (if size.toInt?.isNone then [.notAnInteger] else [])
      ++ (if size.blt (.ofNat 1) then [.tooSmall] else [])
      ++ (if Number.blt (.ofNat maxSize) size then [.tooLarge] else [])

/-- The size a text denotes. -/
def readSize (standard : Nat) : Option Text → Except (List Problem) Number
  | none => .ok standard
  | some given =>
    let size := Number.ofText given
    match sizeProblems size with
    | [] => .ok size
    | problems => .error problems

/-- Everything that keeps a text from being a label. -/
def labelProblems (label : Text) : List Problem :=
  (if label = [] then [.emptyLabel] else [])
    ++ (if label = [] ∨ unit '/' ∈ label ∨ unit '\n' ∈ label then [.labelAlphabet] else [])

/-- The label of reports. -/
def readLabel : Option Text → Except (List Problem) Text
  | none => .ok Report.standardLabel
  | some given =>
    match labelProblems given with
    | [] => .ok given
    | problems => .error problems

/-! ## All variables -/

/-- The issues of a variable whose value was read. -/
def issuesOf {α : Type} (variableName : Variable) : Except (List Problem) α → List Issue
  | .ok _ => []
  | .error problems => problems.map (Issue.mk variableName)

/-- The number of slots that is standard for first and for later requests. -/
def standardBlock : Nat := 512

/-- The settings of an environment. -/
def load (environment : Environment) : Except (List Issue) Settings :=
  let level := readLevel (environment .logLevel)
  let capacity := readSize Condition.standardCapacity (environment .defaultCapacity)
  let ceiling := readSize standardBlock (environment .initialCeiling)
  let step := readSize standardBlock (environment .growthStep)
  let label := readLabel (environment .reportLabel)
  match level, capacity, ceiling, step, label with
  | .ok level, .ok defaultCapacity, .ok initialCeiling, .ok growthStep, .ok label =>
    .ok { level := level.name, defaultCapacity, initialCeiling, growthStep, label }
  | _, _, _, _, _ =>
    .error (issuesOf .logLevel level ++ issuesOf .defaultCapacity capacity
      ++ issuesOf .initialCeiling ceiling ++ issuesOf .growthStep step
      ++ issuesOf .reportLabel label)

end Settings

end Probing
