import Probing.Text.Lowercase

/-!
# Log levels

A logger has a level and writes the entries that are at least as severe. The level is chosen by
name. Some names are reserved: they are accepted although no level has them, and the logger then
writes nothing.

## Main definitions

* `Log.Level`, `Log.Level.ofName?`: the levels and their names
* `Log.Threshold`, `Log.threshold`: what a logger writes, chosen by name
-/

namespace Probing.Log

/-- How severe an entry is. A logger at level silent writes nothing. -/
inductive Level where
  | trace | debug | info | warn | error | fatal | silent
deriving DecidableEq, Repr, Inhabited

namespace Level

/-- Every level, from the least severe on. -/
def all : List Level :=
  [trace, debug, info, warn, error, fatal, silent]

/-- The name of a level. -/
def name : Level → Text
  | trace => "trace"
  | debug => "debug"
  | info => "info"
  | warn => "warn"
  | error => "error"
  | fatal => "fatal"
  | silent => "silent"

/-- The level with a name. -/
def ofName? (name : Text) : Option Level :=
  all.find? fun level => level.name = name

/-- The number that stands for a level in an entry, larger for a more severe one. -/
def severity : Level → Nat
  | trace => 10
  | debug => 20
  | info => 30
  | warn => 40
  | error => 50
  | fatal => 60
  | silent => 70

/-- A logger at level `threshold` writes entries of this level. -/
def admittedBy (level threshold : Level) : Bool :=
  level ≠ silent && threshold.severity ≤ level.severity

end Level

/-- The names that stand for something in every table of names. -/
def reservedNames : List Text :=
  ["constructor", "hasOwnProperty", "isPrototypeOf", "propertyIsEnumerable", "toLocaleString",
    "toString", "valueOf", "__defineGetter__", "__defineSetter__", "__lookupGetter__",
    "__lookupSetter__", "__proto__"]

/-- What a logger writes. -/
inductive Threshold where
  /-- The entries that are at least as severe as the level. -/
  | atLevel (level : Level)
  /-- Nothing: the name of the logger's level is reserved. -/
  | reserved
deriving DecidableEq, Repr, Inhabited

/-- Why a logger cannot be made. -/
inductive LevelError where
  /-- No level has the name. -/
  | unknown (name : Text)
  /-- The logger it is made from has no level. -/
  | missing
deriving DecidableEq

/-- The wording of a refusal to make a logger. -/
def LevelError.message : LevelError → Text
  | unknown name => "default level:" ++ name ++ " must be included in custom levels"
  | missing => "unknown level undefined"

namespace Threshold

/-- A logger writes entries of this level. -/
def admits : Threshold → Level → Bool
  | atLevel threshold, level => level.admittedBy threshold
  | reserved, _ => false

/-- The level of a logger. -/
def level? : Threshold → Option Level
  | atLevel level => some level
  | reserved => none

/-- The logger of a component, which takes over the level of the logger it is made from. -/
def forComponent (threshold : Threshold) : Except LevelError Threshold :=
  match threshold.level? with
  | some level => .ok (.atLevel level)
  | none => .error .missing

end Threshold

/-- What a logger with a level of this very name writes. -/
def namedThreshold? (name : Text) : Option Threshold :=
  match Level.ofName? name with
  | some level => some (.atLevel level)
  | none => if name ∈ reservedNames then some .reserved else none

/-- What a logger writes whose level is chosen by name. Capitals do not matter in a name, except in
the one of level silent. -/
def threshold (name : Text) : Except LevelError Threshold :=
  match namedThreshold? name with
  | some threshold => .ok threshold
  | none =>
    match namedThreshold? name.lowercase with
    | some (.atLevel .silent) | none => .error (.unknown name)
    | some threshold => .ok threshold

end Probing.Log
