/-
The program: reads its arguments and its environment, runs, and writes the outcome.
-/
import HdWallet.CommandLine.Run
import HdWallet.SystemEntropy

open HdWallet

/-- Whether to write colours: always if they are forced, never if they are refused, and else
on a terminal unless they are switched off. -/
def wantsColours : IO Bool := do
  let forced := (← IO.getEnv "CLICOLOR_FORCE").any (· ≠ "0")
  let refused := (← IO.getEnv "NO_COLOR").isSome
  let switchedOff := (← IO.getEnv "CLICOLOR") = some "0"
  let terminal ← (← IO.getStdout).isTty
  return forced || (!refused && !switchedOff && terminal)

/-- Runs the program. The result is the exit status. -/
def main (args : List String) : IO UInt32 := do
  let environment : CommandLine.Environment :=
    { language := ← IO.getEnv "ASTRA_LANGUAGE", passphrase := ← IO.getEnv "ASTRA_PASSPHRASE" }
  let outcome ← CommandLine.run systemEntropy environment (← wantsColours) args
  outcome.output.forM IO.println
  outcome.error.forM IO.eprintln
  return outcome.status
