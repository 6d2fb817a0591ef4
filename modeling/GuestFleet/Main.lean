import GuestFleet.Cli.Launch

/-!
# The program

Carries out a launch: prints, logs, complains and ends with its code.
-/

namespace GuestFleet

open Cli (Environment Launch)

/-- The variables of the environment that matter. -/
def variableNames : List String :=
  ["RUST_LOG", "NO_COLOR", "CLICOLOR_FORCE"] ++
    Cli.operator.flags.filterMap fun flag => flag.variableName

/-- Reads the environment. -/
def readEnvironment : List String -> IO Environment
  | [] => return []
  | name :: names => do
    let value <- IO.getEnv name
    let others <- readEnvironment names
    return (value.map fun text => (name, text)).toList ++ others

/-- Carries out a launch. -/
def carryOut (environment : Environment) (launch : Launch) : IO UInt32 := do
  IO.print launch.output
  for line in launch.logLines do
    IO.println line
  IO.eprint (launch.complaint environment)
  return UInt32.ofNat launch.exitCode

end GuestFleet

/-- Launches the operator. -/
def main (arguments : List String) : IO UInt32 := do
  let environment <- GuestFleet.readEnvironment GuestFleet.variableNames
  GuestFleet.carryOut environment (.of environment arguments)
