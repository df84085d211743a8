import AgentScript.Proofs.Run.Contract
import AgentScript.World

set_option autoImplicit false

/-! # Worlds that answer

What one answer of a world does to its journal and to its messages, and which failures it brings,
given those of the collaborators. Asking for text takes one answer (`World.play_generate`). -/

namespace AgentScript

/-- Collaborators that fail with failures in `fails` only. -/
structure Collaborators.FailsIn (fails : Failure → Prop) (c : Collaborators) : Prop where
  generator : ∀ earlier prompt instruction,
    AgentScript.FailsIn fails (c.generator earlier prompt instruction)
  render : ∀ text, AgentScript.FailsIn fails (c.render text)
  boot : ∀ s ∈ c.sandbox, ∀ attempt, AgentScript.FailsIn fails (s.boot attempt).result
  run : ∀ s ∈ c.sandbox, ∀ earlier code, (s.run earlier code).FailsIn fails

theorem Collaborators.failsIn_all (c : Collaborators) : c.FailsIn fun _ => True where
  generator _ _ _ := .all _
  render _ := .all _
  boot _ _ _ := .all _
  run _ _ _ _ := Activity.failsIn_all _

/-- Collaborators without a sandbox: a generator that looks at nothing but the request, and a
    renderer that marks up the whole text. -/
def Collaborators.replying (reply : String → Option String → Except Failure String) :
    Collaborators where
  generator _ prompt instruction := reply prompt instruction
  sandbox := none
  render text := .ok ("<md>" ++ text ++ "</md>")

/-- The messages that a request posts. -/
def Request.posted : Request → List ChatMessage
  | .addMessage message => [message]
  | _ => []

/-- The exchange in which a message is posted. -/
def Exchange.ofPost (message : ChatMessage) : Exchange :=
  ⟨.addMessage message, ()⟩

namespace World

variable {α : Type} (c : Collaborators) (w : World)

theorem play_done (a : α) : w.play c (.done a) = (a, w) :=
  rfl

theorem play_ask (q : Request) (next : q.Reply → Dialogue α) :
    w.play c (.ask q next) = (w.answer c q).2.play c (next (w.answer c q).1) :=
  rfl

theorem answer_journal (q : Request) :
    (w.answer c q).2.journal
      = w.journal ++ if isJournaled q then [⟨q, (w.answer c q).1⟩] else [] := by
  cases q <;> first | rfl | exact (List.append_nil _).symm

theorem answer_messages (q : Request) :
    (w.answer c q).2.workspace.messages = w.workspace.messages ++ q.posted := by
  cases q <;> first | rfl | exact (List.append_nil _).symm

theorem answer_failsIn {fails : Failure → Prop} (hc : c.FailsIn fails) (q : Request) :
    q.FailsIn fails (w.answer c q).1 := by
  cases q with
  | render text => exact hc.render text
  | generate prompt instruction => exact hc.generator _ _ _
  | boot =>
      have hboot := hc.boot
      change AgentScript.FailsIn fails (w.boot c).result
      unfold World.boot
      cases hs : c.sandbox with
      | none => trivial
      | some s => exact hboot s hs _
  | runCode code =>
      have hrun := hc.run
      change (w.runCode c code).FailsIn fails
      unfold World.runCode
      cases hs : c.sandbox with
      | none => trivial
      | some s => exact hrun s hs _ _
  | _ => trivial

/-- Asking for text takes one answer, and the reply decides how it ends. -/
theorem play_generate (prompt : String) (instruction : Option String) (refused : String → Failure)
    (run : Run) :
    w.play c ((RunM.generate prompt instruction refused).from run)
      = ((((c.generator (w.journal.filterMap Exchange.generation?) prompt instruction).mapError
          Failure.awaited).bind fun reply =>
            if Text.beginsWith "Error" reply then .error (refused reply) else .ok reply, run),
        (w.answer c (.generate prompt instruction)).2) := by
  have hanswer : (w.answer c (.generate prompt instruction)).1
      = c.generator (w.journal.filterMap Exchange.generation?) prompt instruction := rfl
  rw [RunM.generate, RunM.from_request_bind, play_ask, hanswer]
  cases c.generator (w.journal.filterMap Exchange.generation?) prompt instruction with
  | error f => rfl
  | ok reply =>
      show World.play c _ (RunM.from (if Text.beginsWith "Error" reply then
        RunM.fail (refused reply) else pure reply) run)
        = ((if Text.beginsWith "Error" reply then .error (refused reply) else .ok reply, run), _)
      split <;> rfl

theorem play_generate_ok {prompt reply : String} {instruction : Option String}
    (h : c.generator (w.journal.filterMap Exchange.generation?) prompt instruction = .ok reply)
    (refused : String → Failure) (run : Run) :
    w.play c ((RunM.generate prompt instruction refused).from run)
      = ((if Text.beginsWith "Error" reply then .error (refused reply) else .ok reply, run),
        (w.answer c (.generate prompt instruction)).2) := by
  rw [play_generate, h]
  rfl

end World

end AgentScript
