import ClassGroups.Command.Line
import ClassGroups.Text.Utf8

/-!
# Program

Runs the command line on the arguments, the environment and the standard input of the process.
Variables that the environment lacks may be defined in a file `.env` of the current directory.
-/

namespace ClassGroups

/-- The variables that the program looks at. -/
def variableNames : List String :=
  ["TW_GROUP_FORMAT", "TW_GROUP_MIN_TOKENS", "TW_GROUP_INCLUDE_COMMENTS", "TW_GROUP_INDENT",
    "TW_GROUP_CALLEE", "PYTHON_DOTENV_DISABLED"]

/-- The variables of the process that are set. -/
def processEnvironment : IO Environment := do
  let mut env : Environment := []
  for name in variableNames do
    if let some value ← IO.getEnv name then
      env := env ++ [(name.toList, value.toList)]
  return env

/-- The definitions in the file `.env`, if it can be read. -/
def definitionFile : IO Text := do
  try
    return (← IO.FS.readFile ".env").toList
  catch _ => return []

/-- The text on the standard input, without the bytes that are not UTF-8. -/
def processInput : IO Text := do
  return Text.decode (← (← IO.getStdin).readBinToEnd).toList

end ClassGroups

open ClassGroups in
/-- Runs the program. The input is read only by the commands that use it. -/
def main (arguments : List String) : IO UInt32 := do
  let arguments := arguments.map String.toList
  let env ← processEnvironment
  let definitions ← definitionFile
  let readsInput :=
    match Command.parseLine arguments with
    | .ok (.interactive, _) => true
    | .ok (.format, p) => (p.operands.getD []).isEmpty
    | _ => false
  let input ← if readsInput then processInput else pure []
  let outcome := Command.run arguments env definitions input
  IO.eprint (String.ofList outcome.errors)
  if let some fault := outcome.fault? then
    IO.eprintln (String.ofList fault.message)
  IO.print (String.ofList outcome.output)
  return outcome.status.toUInt32
