import Probing.CommandLine.Program

/-!
# The executable

Reads the environment and the arguments, runs the program and writes what it answers. Log entries go
to the error stream, one to a line.
-/

open Probing

/-- The environment variables the program looks at. -/
def readEnvironment : IO Environment := do
  let mut values : List (Variable × Text) := []
  for name in Variable.all do
    if let some value ← IO.getEnv name.name then
      values := (name, Text.ofString value) :: values
  let found := values
  return fun name => found.lookup name

/-- Runs the program with its arguments. -/
def main (arguments : List String) : IO UInt32 := do
  let environment ← readEnvironment
  let stdout ← IO.getStdout
  let stderr ← IO.getStderr
  let style := if ← stdout.isTty then Style.coloured else Style.plain
  let exit := CommandLine.execute environment style (arguments.map Text.ofString)
  for entry in exit.entries do
    stderr.putStrLn entry.json.compact.toString
  stdout.putStr exit.streams.stdout.toString
  stderr.putStr exit.streams.stderr.toString
  return ((exit.code.toInt?.getD 1) % 256).toNat.toUInt32
