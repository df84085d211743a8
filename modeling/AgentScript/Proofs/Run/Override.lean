import AgentScript.Proofs.Run.Action
import AgentScript.Proofs.Run.Retrace
import AgentScript.Proofs.Script.Nesting

set_option autoImplicit false

/-! # Overrides of the answer

An override gives the answer in place of the prompt when it stands by itself, and in place of an
earlier answer when it stands in the block after the prompt. A script without a prompt block has no
earlier answer, so the two ways come to the same (`play_runScript_nested`): only the trace tells in
which phase the answer was made. -/

namespace AgentScript

open Script

namespace RunM

theorem produceAnswer_override {text : String} (h : text ≠ "") (before : Option String) :
    produceAnswer { beforePrompt := before, overridePrompt := some text }
      = (do setAnswer (← resolve text)) := by
  rw [produceAnswer, Command.nonempty?_of_ne h]

theorem produceAnswer_none (before after : Option String) :
    produceAnswer { beforePrompt := before, afterPrompt := after } = pure () :=
  rfl

theorem runBlock?_none (announcement : String) : runBlock? announcement none = pure () :=
  rfl

theorem runBlock?_some {text : String} (h : text ≠ "") (announcement : String) :
    runBlock? announcement (some text) = (do trace 1 announcement; runBlock text) := by
  rw [runBlock?, Command.nonempty?_of_ne h]

/-- Apart from its records, a block that is an override only makes the answer. -/
theorem runBlock_enclosed {b : String} (hb : IsFreeOf .overridePrompt b) (run : Run) :
    ((runBlock (enclosed .overridePrompt b)).from run).untraced
      = ((do setAnswer (← resolve (Text.strip b)) : RunM Unit).from run).untraced := by
  rw [runBlock, steps_enclosed_override hb, runSteps, runSteps, step]
  simp only [bind_assoc]
  rw [untraced_trace_bind, act]
  simp

theorem runBlock?_enclosed {b : String} (hb : IsFreeOf .overridePrompt b) (announcement : String)
    (run : Run) :
    ((runBlock? announcement (some (Text.strip (enclosed .overridePrompt b)))).from run).untraced
      = ((do setAnswer (← resolve (Text.strip b)) : RunM Unit).from run).untraced := by
  have hne : enclosed .overridePrompt b ≠ "" := by
    rw [enclosed_overridePrompt]
    simp
  rw [strip_enclosed_overridePrompt, runBlock?_some hne, untraced_trace_bind]
  exact runBlock_enclosed hb run

theorem phases_nested {before : Option String}
    (hbefore : ∀ body ∈ before, ∀ n ≠ .overridePrompt, IsFreeOf n body) {b : String}
    (hb : ∀ n, IsFreeOf n b) (hblank : ¬ b.toList.all Text.isBlank) (run : Run) :
    ((phases (preamble before ++ enclosed .overridePrompt b)).from run).untraced
      = ((phases (preamble before ++ enclosed .afterPrompt (enclosed .overridePrompt b))).from
        run).untraced := by
  obtain ⟨before', b', hb', hall, halone, hnested⟩ := Blocks.exists_ofText_enclosed hbefore hb
  have hne : Text.strip b' ≠ "" := by
    rw [Ne, Text.strip_eq_empty_iff, hall]
    exact hblank
  simp only [phases, halone, hnested, untraced_trace_bind]
  refine untraced_bind_congr (fun _ => rfl) (fun _ run => ?_) run
  -- one of them has no block after the prompt, the other one makes no answer before it
  simp only [produceAnswer_none, runBlock?_none, pure_bind, produceAnswer_override hne]
  exact untraced_bind_congr (fun run => (runBlock?_enclosed (hb' _) _ run).symm) (fun _ _ => rfl)
    run

end RunM

/-- An override by itself and an override in the block after the prompt come to the same, with
    whatever block before the prompt: the run ends the same, in the same state, and leaves the world
    the same but for the trace. -/
theorem World.play_runScript_nested (c : Collaborators) (w : World) (prompt : Value)
    {before : Option String}
    (hbefore : ∀ body ∈ before, ∀ n ≠ .overridePrompt, IsFreeOf n body) {b : String}
    (hb : ∀ n, IsFreeOf n b) (hblank : ¬ b.toList.all Text.isBlank) :
    (w.play c (runScript (preamble before ++ enclosed .afterPrompt (enclosed .overridePrompt b))
        prompt)).1
        = (w.play c (runScript (preamble before ++ enclosed .overridePrompt b) prompt)).1
      ∧ (w.play c (runScript (preamble before ++ enclosed .overridePrompt b) prompt)).2.SameButTrace
        (w.play c (runScript (preamble before
          ++ enclosed .afterPrompt (enclosed .overridePrompt b)) prompt)).2 := by
  refine play_of_untraced_eq c w ?_
  rw [runScript_eq_conclude, runScript_eq_conclude, Dialogue.untraced_bind, Dialogue.untraced_bind,
    RunM.phases_nested hbefore hb hblank]

/-- The body may be indented, hold a carriage return by itself, and look like a call. -/
theorem World.play_runScript_nested_indented :
    (∀ n, IsFreeOf n "\n  [Title] ended\r\nlog(") ∧
      ((initial {} 0).play (.replying fun prompt _ => .ok prompt)
        (runScript (preamble (some "log(\"one\")")
          ++ enclosed .afterPrompt (enclosed .overridePrompt "\n  [Title] ended\r\nlog("))
          (.str ""))).1
        = ((initial {} 0).play (.replying fun prompt _ => .ok prompt)
        (runScript (preamble (some "log(\"one\")")
          ++ enclosed .overridePrompt "\n  [Title] ended\r\nlog(") (.str ""))).1 := by
  have hb (n : BlockName) : IsFreeOf n "\n  [Title] ended\r\nlog(" := by
    cases n <;> decide +kernel
  have hbefore : ∀ body ∈ some "log(\"one\")", ∀ n ≠ .overridePrompt, IsFreeOf n body := by
    rintro body hbody n -
    cases hbody
    cases n <;> decide +kernel
  exact ⟨hb, (play_runScript_nested _ _ _ hbefore hb (by decide +kernel)).1⟩

end AgentScript
