import AgentScript.Sandbox.Activity
import AgentScript.Trace
import AgentScript.Workspace.Basic

set_option autoImplicit false

/-! # Dialogues

A run does nothing by itself. It is a dialogue with its collaborators: it puts one request after the
other and goes on with the replies, until it is done. Who answers, and what other runs do between a
request and its reply, is left open, so that the same dialogue can be played alone or among
others. -/

namespace AgentScript

/-- Whether there is a sandbox, and whether it has been prepared. -/
inductive EngineState where
  | absent
  | cold
  | ready
deriving DecidableEq

/-- What a run asks of its collaborators: the workspace, the renderer of markup, the generator of
    text, the sandbox and the trace. -/
inductive Request where
  | logAction (message : String)
  | addMessage (message : ChatMessage)
  | addNote (title content : String)
  | noteContent (title : String)
  | updateNote (title content : String)
  | deleteNote (title : String)
  | updatePlan (task status : String)
  | addFile (file : UserFile)
  | findFile (name : String)
  | removeFiles (name : String)
  | playMusic (track : String)
  | render (text : String)
  | generate (prompt : String) (instruction : Option String)
  | engineState
  | boot
  | engineReady
  | runCode (code : String)
  /-- Hand the running code the input that it has read. -/
  | deliver (key : String) (value : Value)
  | trace (record : TraceRecord)

/-- What a request is answered with. -/
def Request.Reply : Request → Type
  | .noteContent _ => Option String
  | .updateNote _ _ | .deleteNote _ | .updatePlan _ _ => Bool
  | .findFile _ => Option UserFile
  | .render _ | .generate _ _ => Except Failure String
  | .engineState => EngineState
  | .boot => Boot
  | .runCode _ => Activity
  | _ => Unit

/-- A dialogue that ends with an `α`. -/
inductive Dialogue (α : Type) where
  | done (a : α)
  | ask (q : Request) (next : q.Reply → Dialogue α)

namespace Dialogue

variable {α β γ : Type}

/-- Go on with a second dialogue that depends on how the first one ends. -/
def bind : Dialogue α → (α → Dialogue β) → Dialogue β
  | .done a, f => f a
  | .ask q next, f => .ask q fun r => (next r).bind f

/-- Put one request. -/
def request (q : Request) : Dialogue q.Reply :=
  .ask q .done

theorem bind_done (d : Dialogue α) : d.bind .done = d := by
  induction d with
  | done a => rfl
  | ask q next ih => simp only [bind, ih]

theorem bind_assoc (d : Dialogue α) (f : α → Dialogue β) (g : β → Dialogue γ) :
    (d.bind f).bind g = d.bind fun a => (f a).bind g := by
  induction d with
  | done a => rfl
  | ask q next ih => simp only [bind, ih]

instance : Monad Dialogue where
  pure := .done
  bind := bind

instance : LawfulMonad Dialogue :=
  LawfulMonad.mk' Dialogue bind_done (fun _ _ => rfl) bind_assoc

end Dialogue

end AgentScript
