import AgentScript.Run.Block
import AgentScript.Workspace.Message

set_option autoImplicit false

/-! # Running a script

A script runs in three phases: the block before the prompt, the answer itself, the block after the
prompt. A top-level override gives the answer; without one the prompt block is sent to the
generator. In the end the answer, if there is one, is posted as a message. A failure ends the run at
once and is posted instead. -/

namespace AgentScript.RunM

/-- Run a block, if there is anything in it. -/
def runBlock? (announcement : String) (block : Option String) : RunM Unit := do
  match Command.nonempty? block with
  | some text =>
    trace 1 announcement
    runBlock text
  | none => pure ()

/-- The middle phase: make the answer. -/
def produceAnswer (blocks : Script.Blocks) : RunM Unit := do
  match Command.nonempty? blocks.overridePrompt, Command.nonempty? blocks.prompt with
  | some text, _ => setAnswer (← resolve text)
  | none, some text =>
    let prompt ← resolve text
    logAction "Asking AI..."
    setAnswer (← generate prompt none fun reply => .script (.requestFailed reply))
  | none, none => pure ()

/-- Post the answer, if it counts as something. -/
def postAnswer : RunM Unit := do
  let context := (← get).context
  if (context.get? "answer").any Value.isTruthy then
    let text ← lift context.answer
    let markup ← lift (← request (.render text))
    request (.addMessage (.ofAnswer text markup))

/-- All phases of a script. -/
def phases (source : String) : RunM Unit := do
  let blocks := Script.Blocks.ofText source
  trace 1 ("blocks: " ++ blocks.shown)
  runBlock? "run beforePrompt" blocks.beforePrompt
  produceAnswer blocks
  runBlock? "run afterPrompt" blocks.afterPrompt
  postAnswer

end RunM

/-- Run an action from a state: how it ends, and the state it reaches. -/
def RunM.from {α : Type} (action : RunM α) (run : Run) : Dialogue (Except Failure α × Run) :=
  action.run.run run

/-- Post a failure of a run. -/
def Run.report (run : Run) (f : Failure) : Dialogue Run := do
  Dialogue.request (.trace ⟨.interpreter, 1, Trace.failureMessage⟩)
  Dialogue.request (.addMessage (.ofFailure f))
  return { run with error := some f.notice }

/-- Run a script with a value for the prompt. Only an interrupt is left to the caller; every other
    failure is posted. -/
def runScript (source : String) (prompt : Value) : Dialogue (Except Failure Unit × Run) := do
  let (outcome, run) ← (RunM.phases source).from (.start prompt)
  match outcome with
  | .ok () => return (.ok (), run)
  | .error f =>
    if f.isOrdinary then return (.ok (), ← run.report f)
    else return (.error f, run)

end AgentScript
