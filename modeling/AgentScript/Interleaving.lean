import AgentScript.World

set_option autoImplicit false

/-! # Interleaved dialogues

Several dialogues may share a world. Each goes on without interruption until it pauses at a request;
then another one may take its turn. A schedule lists whose turn it is; in a round-robin schedule the
dialogues take their turns in order, over and over. -/

namespace AgentScript.World

variable {α : Type}

/-- Let a dialogue go on until it has put a request at which it pauses, or is done. -/
def turn (c : Collaborators) (pauses : Request → Bool) (w : World) : Dialogue α → Dialogue α × World
  | .done a => (.done a, w)
  | .ask q next =>
    let (reply, after) := w.answer c q
    if pauses q then (next reply, after) else after.turn c pauses (next reply)

theorem turn_ask (c : Collaborators) (pauses : Request → Bool) (w : World) (q : Request)
    (next : q.Reply → Dialogue α) :
    w.turn c pauses (.ask q next)
      = if pauses q then (next (w.answer c q).1, (w.answer c q).2)
        else (w.answer c q).2.turn c pauses (next (w.answer c q).1) :=
  rfl

/-- Let dialogues take turns as a schedule says; turns of no dialogue are left out. -/
def interleave (c : Collaborators) (pauses : Request → Bool) (w : World) :
    List Nat → List (Dialogue α) → List (Dialogue α) × World
  | [], ds => (ds, w)
  | i :: schedule, ds =>
    match ds[i]? with
    | none => w.interleave c pauses schedule ds
    | some d =>
      let (d', after) := w.turn c pauses d
      after.interleave c pauses schedule (ds.set i d')

/-- The schedule that gives `n` dialogues a turn in each of some rounds. -/
def roundRobin (n rounds : Nat) : List Nat :=
  (List.replicate rounds (List.range n)).flatten

end AgentScript.World

namespace AgentScript

/-- What a dialogue has ended with. -/
def Dialogue.result? {α : Type} : Dialogue α → Option α
  | .done a => some a
  | .ask _ _ => none

/-- Whether a request is one for text. -/
def Request.isGeneration : Request → Bool
  | .generate _ _ => true
  | _ => false

end AgentScript
