import AccessControl.CommandLine.Run

/-!
The program `mbp-access`: arguments, environment and files in, lines and an exit code out.
-/

namespace AccessControl.CommandLine

/-- Looks at a file on disk. -/
def readFromDisk (path : String) : IO ConfigFile := do
  try
    let bytes ← IO.FS.readBinFile path
    match String.fromUTF8? bytes with
    | some content => return .text content
    | none => return .unreadable
  catch error =>
    match error with
    | .noFileOrDirectory .. => return .missing
    | _ => return .unreadable

/-- The environment variables that the program looks at. -/
def variableNames : List String :=
  [configVariable, Environment.depthVariable, Environment.headerVariable,
    Environment.policyFileVariable, Environment.logLevelVariable, Environment.logFormatVariable]

def readEnvironment : IO Environment := do
  let values ← variableNames.mapM fun name => return (name, ← IO.getEnv name)
  return fun name => (values.lookup name).join

end AccessControl.CommandLine

open AccessControl.CommandLine in
def main (args : List String) : IO UInt32 := do
  let onTerminal ← (← IO.getStdout).isTty
  let output ← run readFromDisk (← readEnvironment) onTerminal args
  output.stdout.forM fun line => IO.println line
  output.stderr.forM fun line => IO.eprintln line
  return output.code.toUInt32
