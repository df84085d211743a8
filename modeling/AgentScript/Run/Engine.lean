import AgentScript.Run.Basic

set_option autoImplicit false

/-! # Running code

The sandbox is prepared before it is first used. Code that runs in it reads the names of the run and
sets names and the last result; what it returns becomes the last result in the end. -/

namespace AgentScript.RunM

/-- The text of a failure without the mark that sandboxes put in front, and without whatever stands
    before the mark. -/
def stripMark (message : String) : String :=
  match Text.cutAt sandboxMark message with
  | some (_, detail) => Text.strip detail
  | none => message

/-- Report an ordinary failure of the sandbox as a failure of `execute`; others pass. -/
def executeFailure (fault : String → CommandFault) (f : Failure) : Failure :=
  if f.isOrdinary then .command "execute" (fault f.awaited.message) else f

/-- Have the sandbox prepared, unless it has been already. -/
def ensureEngine : RunM Unit := do
  match ← request .engineState with
  | .absent => failCommand "execute" .engineMissing
  | .ready => pure ()
  | .cold =>
    logAction "Booting Python Engine..."
    let boot ← request .boot
    boot.notes.forM fun note => request (.trace ⟨.sandbox, 1, note⟩)
    match boot.result with
    | .ok () => request .engineReady
    | .error f => fail (executeFailure .bootFailed f)

/-- The value that code reads: that of a name, or else what a token with this path stands for. -/
def readInput (key : String) : RunM Value := do
  match (← get).context.get? key with
  | some v => return v
  | none => return .str (← resolve ("[" ++ key ++ "]"))

/-- Set an output: a name and the last result. -/
def writeOutput (key : String) (v : Value) : RunM Unit := do
  bindName key v
  setResult v
  trace 3 ("sandbox set " ++ key ++ " = " ++ (← lift v.literal))

/-- Carry out what running code does, up to the result that it ends with. -/
def perform : Activity → RunM (Except Failure Value)
  | .finish result => return result
  | .read key next => do
    let input ← attempt (readInput key)
    match input with
    | .ok v => request (.deliver key v)
    | .error _ => pure ()
    perform (next input)
  | .write key v next => do
    let written ← attempt (writeOutput key v)
    perform (next written)
  | .note message next => do
    request (.trace ⟨.sandbox, 1, message⟩)
    perform next

/-- Run code. -/
def execute (code : String) : RunM Unit := do
  ensureEngine
  let activity ← request (.runCode (← resolve code))
  match ← perform activity with
  | .ok v => setResult v
  | .error f => fail (executeFailure (fun message => .codeFailed (stripMark message)) f)

end AgentScript.RunM
