import DistanceField.CommandLine

/-!
# The program

Runs the command line and writes its outcome.
-/

open DistanceField

/-- Run the arguments, write the outcome and exit with its status. -/
def main (args : List String) : IO UInt32 := do
  let outcome := CommandLine.run args
  IO.print outcome.stdout
  IO.eprint outcome.stderr
  return outcome.status.toUInt32
