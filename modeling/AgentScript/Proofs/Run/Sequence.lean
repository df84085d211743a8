import AgentScript.Proofs.Run.Action
import AgentScript.Proofs.Run.Retrace
import AgentScript.Proofs.Script.Composition

set_option autoImplicit false

/-! # Running blocks one after the other

Running a closed block with a second block after it is running the first one and then, unless that
fails, the second one (`play_runBlock_append`). Only the line numbers in the trace tell the
difference: those of the second block go on from the first. -/

namespace AgentScript

/-! ## Line numbers -/

/-- What the trace records of a step before it is carried out. -/
def Script.Step.record (s : Script.Step) : TraceRecord :=
  ⟨.interpreter, 2, s.shown⟩

/-- Two records are the same, or those of the same step on different lines. -/
def SameButLine (r r' : TraceRecord) : Prop :=
  r = r' ∨ ∃ (s : Script.Step) (line : Nat), r = s.record ∧ r' = { s with line := line }.record

theorem SameButLine.refl (r : TraceRecord) : SameButLine r r :=
  .inl rfl

namespace RunM

variable {α β : Type}

theorem bind_retraced {same : TraceRecord → TraceRecord → Prop} {x x' : RunM α}
    {f f' : α → RunM β} (hx : ∀ run, (x.from run).Retraced same (x'.from run))
    (hf : ∀ a run, ((f a).from run).Retraced same ((f' a).from run)) (run : Run) :
    ((x >>= f).from run).Retraced same ((x' >>= f').from run) := by
  rw [from_bind, from_bind]
  refine (hx run).bind fun r => ?_
  obtain ⟨e | a, after⟩ := r
  · exact .refl _
  · exact hf a after

theorem step_retraced (n : Nat) (s : Script.Step) (run : Run) :
    ((step s).from run).Retraced SameButLine ((step (s.lower n)).from run) :=
  .trace (.inr ⟨s, n + s.line, rfl, rfl⟩) rfl (.refl _)

/-- Steps further down do the same. -/
theorem runSteps_retraced (n : Nat) (steps : List Script.Step) (run : Run) :
    ((runSteps steps).from run).Retraced SameButLine
      ((runSteps (steps.map (Script.Step.lower n))).from run) := by
  induction steps generalizing run with
  | nil => exact .refl _
  | cons s rest ih => exact bind_retraced (step_retraced n s) (fun _ => ih) run

/-! ## Steps one after the other -/

theorem runSteps_append (steps more : List Script.Step) :
    runSteps (steps ++ more) = (do runSteps steps; runSteps more) := by
  induction steps with
  | nil => simp [runSteps]
  | cons s rest ih => rw [List.cons_append, runSteps, ih, runSteps, bind_assoc]

/-- A closed block and a second block after it, as a dialogue. -/
theorem runBlock_append_retraced {a : String} (h : Script.IsClosed a) (b : String) (run : Run) :
    ((do runBlock a; runBlock b).from run).Retraced SameButLine
      ((runBlock (a ++ "\n" ++ b)).from run) := by
  rw [runBlock, runBlock, runBlock, Script.steps_append h, runSteps_append]
  exact bind_retraced (fun _ => .refl _) (fun _ => runSteps_retraced _ _) run

end RunM

namespace World

/-- An action and then another one: the second is played only if the first succeeds, from the
    state and in the world that the first one leaves. -/
def playInTurn (c : Collaborators) (w : World) (first second : RunM Unit) (run : Run) :
    (Except Failure Unit × Run) × World :=
  match w.play c (first.from run) with
  | ((.ok (), after), world) => world.play c (second.from after)
  | ((.error e, after), world) => ((.error e, after), world)

theorem play_bind_eq_playInTurn (c : Collaborators) (w : World) (first second : RunM Unit)
    (run : Run) :
    w.play c ((do first; second : RunM Unit).from run) = w.playInTurn c first second run := by
  rw [RunM.from_bind, play_bind, playInTurn]
  obtain ⟨⟨e | _, after⟩, world⟩ := w.play c (first.from run) <;> rfl

/-- Running a closed block with a second block after it has the effect of running one and then, if
    that does not fail, the other: it ends the same, in the same state, and leaves the world the
    same up to the line numbers in its trace. -/
theorem play_runBlock_append (c : Collaborators) (w : World) (run : Run) {a : String}
    (h : Script.IsClosed a) (b : String) :
    (w.play c ((RunM.runBlock (a ++ "\n" ++ b)).from run)).1
        = (w.playInTurn c (RunM.runBlock a) (RunM.runBlock b) run).1
      ∧ (w.playInTurn c (RunM.runBlock a) (RunM.runBlock b) run).2.Retraced SameButLine
          (w.play c ((RunM.runBlock (a ++ "\n" ++ b)).from run)).2 := by
  rw [← play_bind_eq_playInTurn]
  exact play_retraced SameButLine.refl c (RunM.runBlock_append_retraced h b run)
    (.refl SameButLine.refl w)

theorem play_runBlock_append_override :
    Script.IsClosed "log(\n\"one\")\nstart overridePrompt\ntwo\nend overridePrompt" ∧
      ((initial {} 2).play (.replying fun prompt _ => .ok prompt) ((RunM.runBlock
          ("log(\n\"one\")\nstart overridePrompt\ntwo\nend overridePrompt" ++ "\n" ++
            "getOutput as \"x\"")).from (.start (.str "")))).1
        = ((initial {} 2).playInTurn (.replying fun prompt _ => .ok prompt)
          (RunM.runBlock "log(\n\"one\")\nstart overridePrompt\ntwo\nend overridePrompt")
          (RunM.runBlock "getOutput as \"x\"") (.start (.str ""))).1 := by
  have h : Script.IsClosed "log(\n\"one\")\nstart overridePrompt\ntwo\nend overridePrompt" := by
    decide +kernel
  exact ⟨h, (play_runBlock_append _ _ _ h _).1⟩

end World

end AgentScript
