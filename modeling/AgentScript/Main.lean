import AgentScript.CommandLine.Program

set_option autoImplicit false

/-! # The executable

Reads the files and variables that the command line asks for, and writes out what the program leaves
behind. There is no connection to any model here. -/

namespace AgentScript.CommandLine

/-- The paths that a command line names, each with what it leads to if it leads anywhere. -/
def findPlaces (arguments : List String) : IO (List (String × Place)) := do
  match Invocation.ofArguments arguments with
  | .error _ => return []
  | .ok invocation =>
    let mut found := []
    for path in [some invocation.script, invocation.promptFile].filterMap id do
      let name := shownPath path
      try
        found := found ++ [(name, Place.file (← IO.FS.readFile name))]
      catch e => match e with
        | .inappropriateType .. => found := found ++ [(name, .folder)]
        | _ => pure ()
    return found

/-- The variables of the environment that the settings are read from. -/
def readVariables : IO (List (String × String)) := do
  let mut found := []
  for name in ["GEMINI_API_KEY", "FLOWSCRIPT_MODEL"] do
    if let some value := ← IO.getEnv name then found := found ++ [(name, value)]
  return found

/-- Write out what the program leaves behind. -/
def Outcome.write (o : Outcome) : IO UInt32 := do
  (← IO.getStdout).putStr o.output
  (← IO.getStderr).putStr o.complaint
  if let some trace := o.trace then IO.FS.writeFile "debug.txt" trace.text
  return o.status.toUInt32

end AgentScript.CommandLine

open AgentScript in
/-- Run the program with its arguments. -/
def main (arguments : List String) : IO UInt32 := do
  let places ← CommandLine.findPlaces arguments
  let found ← CommandLine.readVariables
  let surroundings : CommandLine.Surroundings :=
    { place := fun name => places.lookup name
      environment := fun name => found.lookup name
      client := fun _ => .error (.raised "ConnectionError" (some "no model can be reached")) }
  match CommandLine.run surroundings arguments with
  | .ok outcome => outcome.write
  | .error f =>
    (← IO.getStderr).putStrLn f.describe
    return 130
