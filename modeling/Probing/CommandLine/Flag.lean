import Probing.Text.Basic

/-!
# Flags and arguments

The arguments of a command are sorted into the values of its flags, operands, and arguments it does
not know. A flag is written in full or with one letter; a value follows as the next argument, behind
an equals sign, or directly behind the letter. Everything behind `--` is an operand.

## Main definitions

* `Flag`: a flag of a command
* `Arguments`: sorted arguments
* `Arguments.sort`: sorts arguments, or names the flag whose value is missing
-/

namespace Probing.CommandLine

/-- A flag of a command. -/
structure Flag where
  /-- The short form with its dash. -/
  short : Option Text := none
  /-- The long form with its dashes. -/
  long : Text
  /-- What stands for the value in the help, if the flag takes one. -/
  placeholder : Option Text := none
  description : Text
  /-- The command cannot run without it. -/
  required : Bool := false
deriving DecidableEq

namespace Flag

/-- The forms of a flag with its placeholder, as the help shows them. -/
def term (flag : Flag) : Text :=
  let short : Text :=
    match flag.short with
    | some short => short ++ ", "
    | none => []
  let placeholder : Text :=
    match flag.placeholder with
    | some placeholder => " " ++ placeholder
    | none => []
  short ++ flag.long ++ placeholder

/-- The flag with a form. -/
def find? (flags : List Flag) (form : Text) : Option Flag :=
  flags.find? fun flag => flag.short = some form ∨ flag.long = form

/-- The flag takes a value. -/
def takesValue (flag : Flag) : Bool :=
  flag.placeholder.isSome

end Flag

/-- Sorted arguments of a command. -/
structure Arguments where
  /-- The flags that were given, each with its value, the last one first. -/
  given : List (Flag × Text) := []
  operands : List Text := []
  /-- The first unknown argument that looks like a flag, and all that follow it unless they are
  known. -/
  unknown : List Text := []
deriving DecidableEq

namespace Arguments

/-- The value of a flag; the last one counts. -/
def value? (arguments : Arguments) (flag : Flag) : Option Text :=
  arguments.given.lookup flag

/-- Notes a flag. -/
def note (arguments : Arguments) (flag : Flag) (value : Text) : Arguments :=
  { arguments with given := (flag, value) :: arguments.given }

/-- Adds arguments that belong to no flag. -/
def add (arguments : Arguments) (more : List Text) : Arguments :=
  if arguments.unknown = [] then { arguments with operands := arguments.operands ++ more }
  else { arguments with unknown := arguments.unknown ++ more }

/-- An argument that looks like a flag. -/
def looksLikeFlag (argument : Text) : Bool :=
  1 < argument.length && argument.head? = some (unit '-')

/-- A known letter at the start of a group behind one dash, and what follows it. -/
def letter? (flags : List Flag) (argument : Text) : Option (Flag × Text) :=
  match argument with
  | dash :: letter :: rest@(_ :: _) =>
    if letter = unit '-' then none
    else (Flag.find? flags [dash, letter]).map fun flag => (flag, rest)
  | _ => none

/-- A letter and its dash leave a tail two units shorter than the argument. -/
theorem letter?_length {flags : List Flag} {argument tail : Text} {flag : Flag}
    (h : letter? flags argument = some (flag, tail)) : tail.length + 2 = argument.length := by
  unfold letter? at h
  split at h
  · split at h
    · simp at h
    · obtain ⟨_, _, rfl, rfl⟩ := Option.map_eq_some_iff.1 h
      simp
  · simp at h

/-- A known flag in full with its value behind an equals sign. -/
def assignment? (flags : List Flag) (argument : Text) : Option (Flag × Text) :=
  let name := argument.takeWhile (· ≠ unit '=')
  match argument.drop name.length with
  | _ :: value => ((Flag.find? flags name).filter Flag.takesValue).map fun flag => (flag, value)
  | [] => none

/-- The number of arguments and of their units. -/
def size : List Text → Nat
  | [] => 0
  | argument :: rest => argument.length + 1 + size rest

/-- Sorts the remaining arguments on top of those already sorted. -/
def sortFrom (flags : List Flag) (sorted : Arguments) (remaining : List Text) :
    Except Flag Arguments :=
  match remaining with
  | [] => .ok sorted
  | argument :: rest =>
    if argument = ("--" : Text) then
      .ok (if sorted.unknown = [] then sorted.add rest else sorted.add (argument :: rest))
    else if looksLikeFlag argument then
      match Flag.find? flags argument with
      | some flag =>
        if flag.takesValue then
          match rest with
          | [] => .error flag
          | value :: rest => sortFrom flags (sorted.note flag value) rest
        else sortFrom flags (sorted.note flag []) rest
      | none =>
        match h : letter? flags argument with
        | some (flag, tail) =>
          if flag.takesValue then sortFrom flags (sorted.note flag tail) rest
          else
            have := letter?_length h
            sortFrom flags (sorted.note flag []) ((unit '-' :: tail) :: rest)
        | none =>
          match assignment? flags argument with
          | some (flag, value) => sortFrom flags (sorted.note flag value) rest
          | none =>
            sortFrom flags { sorted with unknown := sorted.unknown ++ [argument] } rest
    else sortFrom flags (sorted.add [argument]) rest
termination_by size remaining
decreasing_by
  all_goals simp only [size, List.length_cons]
  all_goals omega

/-- Sorts the arguments of a command with the given flags. -/
def sort (flags : List Flag) (arguments : List Text) : Except Flag Arguments :=
  sortFrom flags {} arguments

end Arguments

end Probing.CommandLine
