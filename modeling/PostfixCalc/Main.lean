/-
# The program

Reads the arguments, the environment and, if there is no equation among the
arguments, the standard input; writes what the command line answers.
-/

import PostfixCalc.CommandLine.Arguments

open PostfixCalc in
/-- Run the command line. -/
def main (arguments : List String) : IO UInt32 := do
  let environment ← IO.getEnv CommandLine.precisionVariable
  let logger := CommandLine.readLogger (← IO.getEnv CommandLine.logVariable)
  match CommandLine.readCommand environment arguments with
  | .error stop =>
      if stop.exitCode = 0 then IO.println stop.message else IO.eprintln stop.message
      pure stop.exitCode.toUInt32
  | .ok options =>
      let needsInput := options.equations.isEmpty && !options.list
      let input ← if needsInput then (← IO.getStdin).readBinToEnd else pure ByteArray.empty
      let output := CommandLine.run options input.data.toList logger
      IO.print output.stdout
      IO.eprint output.stderr
      pure output.exitCode.toUInt32
