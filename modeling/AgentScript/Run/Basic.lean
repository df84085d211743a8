import AgentScript.Context.Template
import AgentScript.Dialogue

set_option autoImplicit false

/-! # Runs

The state of one execution of a script, and the actions that change it. An action either succeeds or
stops with a failure; the state it has reached by then is kept in both cases. -/

namespace AgentScript

/-- The state of a run. -/
structure Run where
  context : Context
  /-- The agents by name, each with its instruction. -/
  agents : Bindings String := .empty
  /-- The instruction that waits for an agent to be registered with it. -/
  pending : Option String := none
  lastResult : Value := .null
  error : Option String := none

/-- The state at the start of a run. -/
def Run.start (prompt : Value) : Run :=
  { context := Context.initial prompt (.str "") [] }

/-- An action of a run. -/
abbrev RunM := ExceptT Failure (StateT Run Dialogue)

namespace RunM

variable {α : Type}

/-- Put a request. -/
def request (q : Request) : RunM q.Reply :=
  ExceptT.lift (StateT.lift (Dialogue.request q))

/-- Stop with a failure. -/
def fail (f : Failure) : RunM α :=
  throw f

/-- Stop with a failure of a command. -/
def failCommand (name : String) (fault : CommandFault) : RunM α :=
  fail (.command name fault)

/-- Take the value of a computation that may fail. -/
def lift (r : Except Failure α) : RunM α :=
  match r with
  | .ok a => pure a
  | .error f => fail f

/-- Take the answer of a collaborator that had to be waited for. -/
def await (r : Except Failure α) : RunM α :=
  lift (r.mapError Failure.awaited)

/-- The failure or the value that an action ends with. -/
def attempt (action : RunM α) : RunM (Except Failure α) :=
  ExceptT.lift action.run

/-- Resolve a text in the context of the moment. -/
def resolve (text : String) : RunM String := do
  lift ((← get).context.resolve text)

/-- Resolve a text that may be absent. -/
def resolve? (text : Option String) : RunM String := do
  lift ((← get).context.resolve? text)

/-- Bind a name of the context. -/
def bindName (name : String) (v : Value) : RunM Unit :=
  modify fun run => { run with context := run.context.put name v }

/-- Make a text the answer. -/
def setAnswer (text : String) : RunM Unit :=
  bindName "answer" (.str text)

/-- Make a value the last result. -/
def setResult (v : Value) : RunM Unit :=
  modify fun run => { run with lastResult := v }

/-- Record something, from the given level of detail on. -/
def trace (detail : Nat) (message : String) : RunM Unit :=
  request (.trace ⟨.interpreter, detail, message⟩)

/-- Add a line to the log of actions. -/
def logAction (message : String) : RunM Unit :=
  request (.logAction message)

/-- Ask for a text. A reply that reports an error stops the action with the given failure. -/
def generate (prompt : String) (instruction : Option String) (refused : String → Failure) :
    RunM String := do
  let reply ← await (← request (.generate prompt instruction))
  if Text.beginsWith "Error" reply then fail (refused reply) else return reply

end RunM

end AgentScript
