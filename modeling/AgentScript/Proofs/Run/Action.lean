import AgentScript.Run.Script

set_option autoImplicit false

/-! # Actions as dialogues

What each way of building an action means for the dialogue that the action holds from a given state.
With these equations an action is taken apart step by step, without opening its monad. -/

namespace AgentScript

namespace RunM

variable {α β : Type}

/-- Go on from the end of an action: with the next action, or not at all after a failure. -/
def andThen (f : α → RunM β) : Except Failure α × Run → Dialogue (Except Failure β × Run)
  | (.ok a, run) => (f a).from run
  | (.error e, run) => pure (.error e, run)

theorem from_bind (x : RunM α) (f : α → RunM β) (run : Run) :
    (x >>= f).from run = x.from run >>= andThen f := by
  refine congrArg (Dialogue.bind (x.from run)) (funext fun r => ?_)
  obtain ⟨e | a, after⟩ := r <;> rfl

theorem from_lift (r : Except Failure α) (run : Run) : (lift r).from run = pure (r, run) := by
  cases r <;> rfl

theorem from_get_bind (f : Run → RunM β) (run : Run) : (get >>= f).from run = (f run).from run :=
  rfl

theorem from_request_bind (q : Request) (f : q.Reply → RunM β) (run : Run) :
    (request q >>= f).from run = .ask q fun r => (f r).from run := by
  rw [from_bind]
  rfl

theorem from_trace_bind (detail : Nat) (message : String) (f : Unit → RunM β) (run : Run) :
    (trace detail message >>= f).from run
      = .ask (.trace ⟨.interpreter, detail, message⟩) fun _ => (f ()).from run :=
  from_request_bind (.trace ⟨.interpreter, detail, message⟩) f run

theorem from_attempt (x : RunM α) (run : Run) :
    (attempt x).from run = x.from run >>= fun r => pure (.ok r.1, r.2) :=
  rfl

theorem from_resolve_bind_ok {text resolved : String} {run : Run}
    (h : run.context.resolve text = .ok resolved) (f : String → RunM β) :
    (resolve text >>= f).from run = (f resolved).from run := by
  have hresolve : (resolve text).from run = pure (run.context.resolve text, run) := from_lift _ run
  rw [from_bind, hresolve, h]
  rfl

theorem from_resolve?_bind_ok {text : Option String} {resolved : String} {run : Run}
    (h : run.context.resolve? text = .ok resolved) (f : String → RunM β) :
    (resolve? text >>= f).from run = (f resolved).from run :=
  from_resolve_bind_ok h f

theorem from_resolve_bind_error {text : String} {e : Failure} {run : Run}
    (h : run.context.resolve text = .error e) (f : String → RunM β) :
    (resolve text >>= f).from run = pure (.error e, run) := by
  have hresolve : (resolve text).from run = pure (run.context.resolve text, run) := from_lift _ run
  rw [from_bind, hresolve, h]
  rfl

end RunM

/-! ## Scripts -/

/-- What a run does with the end of its phases. -/
def Run.conclude : Except Failure Unit × Run → Dialogue (Except Failure Unit × Run)
  | (.ok (), run) => return (.ok (), run)
  | (.error f, run) =>
    if f.isOrdinary then return (.ok (), ← run.report f) else return (.error f, run)

theorem runScript_eq_conclude (source : String) (prompt : Value) :
    runScript source prompt = (RunM.phases source).from (.start prompt) >>= Run.conclude := by
  refine congrArg (Dialogue.bind _) (funext fun r => ?_)
  obtain ⟨f | a, run⟩ := r <;> rfl

end AgentScript
