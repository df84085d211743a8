import AgentScript.Dialogue

set_option autoImplicit false

/-! # Worlds

A world answers the requests of dialogues: it holds the workspace, knows whether the sandbox has
been prepared, and keeps a journal of everything that was asked. The collaborators outside it answer
as functions of what they have been asked before. -/

namespace AgentScript

/-- A source of text: what it replies to a prompt and an instruction, given the earlier requests. -/
abbrev Generator :=
  (earlier : List (String × Option String)) → (prompt : String) → (instruction : Option String) →
    Except Failure String

/-- The collaborators that a world does not hold itself. -/
structure Collaborators where
  generator : Generator
  sandbox : Option Sandbox
  render : String → Except Failure String

/-- A request and what it was answered with. -/
structure Exchange where
  request : Request
  reply : request.Reply

/-- What runs share. -/
structure World where
  workspace : Workspace
  trace : Trace
  engineReady : Bool := false
  journal : List Exchange := []

/-- A request for text among the exchanges. -/
def Exchange.generation? (e : Exchange) : Option (String × Option String) :=
  match e.request with
  | .generate prompt instruction => some (prompt, instruction)
  | _ => none

/-- Whether an exchange is an attempt to prepare the sandbox. -/
def Exchange.isBoot (e : Exchange) : Bool :=
  match e.request with
  | .boot => true
  | _ => false

/-- The code that was run in an exchange. -/
def Exchange.code? (e : Exchange) : Option String :=
  match e.request with
  | .runCode code => some code
  | _ => none

namespace World

/-- A world with a workspace in which nothing has happened, traced at a level of detail. -/
def initial (workspace : Workspace) (level : Nat) : World :=
  { workspace := workspace, trace := { level := level } }

/-- The state of the sandbox. -/
def engineState (c : Collaborators) (w : World) : EngineState :=
  if c.sandbox.isNone then .absent else if w.engineReady then .ready else .cold

/-- How the next preparation of the sandbox goes. -/
def boot (c : Collaborators) (w : World) : Boot :=
  c.sandbox.elim {} fun s => s.boot (w.journal.countP Exchange.isBoot)

/-- What code does in the sandbox. -/
def runCode (c : Collaborators) (w : World) (code : String) : Activity :=
  c.sandbox.elim (.finish (.ok .null)) fun s => s.run (w.journal.filterMap Exchange.code?) code

/-- Do something to the workspace. -/
def withWorkspace {α : Type} (w : World) (r : α × Workspace) : α × World :=
  (r.1, { w with workspace := r.2 })

/-- Do something to the workspace that is not answered. -/
def setWorkspace (w : World) (workspace : Workspace) : Unit × World :=
  ((), { w with workspace := workspace })

/-- The reply to a request and the world after it, the journal aside. -/
def respond (c : Collaborators) (w : World) : (q : Request) → q.Reply × World
  | .logAction message =>
    ((), { w with
      trace := w.trace.write ⟨.actions, 1, message⟩
      workspace := w.workspace.logAction message })
  | .addMessage message => w.setWorkspace (w.workspace.addMessage message)
  | .addNote title content => w.setWorkspace (w.workspace.addNote title content)
  | .noteContent title => (w.workspace.noteContent title, w)
  | .updateNote title content => w.withWorkspace (w.workspace.updateNote title content)
  | .deleteNote title => w.withWorkspace (w.workspace.deleteNote title)
  | .updatePlan task status => w.withWorkspace (w.workspace.updatePlan task status)
  | .addFile file => w.setWorkspace (w.workspace.addFile file)
  | .findFile name => (w.workspace.findFile name, w)
  | .removeFiles name => w.setWorkspace (w.workspace.removeFiles name).2
  | .playMusic track => w.setWorkspace (w.workspace.playMusic track)
  | .render text => (c.render text, w)
  | .generate prompt instruction =>
    (c.generator (w.journal.filterMap Exchange.generation?) prompt instruction, w)
  | .engineState => (w.engineState c, w)
  | .boot => (w.boot c, w)
  | .engineReady => ((), { w with engineReady := true })
  | .runCode code => (w.runCode c code, w)
  | .deliver _ _ => ((), w)
  | .trace record => ((), { w with trace := w.trace.write record })

/-- Whether a request goes into the journal: all do that reach a collaborator. -/
def isJournaled : Request → Bool
  | .engineState | .engineReady | .trace _ => false
  | _ => true

/-- The reply to a request and the world after it. -/
def answer (c : Collaborators) (w : World) (q : Request) : q.Reply × World :=
  let (reply, after) := w.respond c q
  if isJournaled q then (reply, { after with journal := after.journal ++ [⟨q, reply⟩] })
  else (reply, after)

/-- Play a dialogue to its end, with nothing else going on. -/
def play {α : Type} (c : Collaborators) (w : World) : Dialogue α → α × World
  | .done a => (a, w)
  | .ask q next =>
    let (reply, after) := w.answer c q
    after.play c (next reply)

/-- A dialogue that goes on with another one is played by playing both in turn. -/
theorem play_bind {α β : Type} (c : Collaborators) (w : World) (d : Dialogue α)
    (f : α → Dialogue β) :
    w.play c (d >>= f) = (w.play c d).2.play c (f (w.play c d).1) := by
  change w.play c (d.bind f) = _
  induction d generalizing w with
  | done a => rfl
  | ask q next ih => exact ih (w.answer c q).1 (w.answer c q).2

end World

end AgentScript
