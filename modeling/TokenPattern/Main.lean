import TokenPattern.CommandLine

/-!
# The program

Prints the report of the command line and exits with its code.
-/

/-- Run the command line with the arguments of the process. -/
def main (arguments : List String) : IO UInt32 := do
  let report := TokenPattern.CommandLine.run .standard arguments
  IO.print report.output
  IO.eprint report.errorOutput
  return report.exitCode.toUInt32
