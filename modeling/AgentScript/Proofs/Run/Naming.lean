import AgentScript.Proofs.Run.World
import AgentScript.Proofs.Script.Naming

set_option autoImplicit false

/-! # Names that can be used

Statements write names between quotes, where almost any text may stand, but tokens and calls read
words. So what has been named can be used just in case its name has word characters only
(`Script.usable_iff_isReadable`). -/

namespace AgentScript

open Context (IsReadable tokenOf)

namespace Script

theorem stepsFrom_getOutput (n : Nat) {line : String} {name : Option String} (rest : List String)
    (h : Statement.ofLine (Text.strip line) = some (.getOutput name)) :
    stepsFrom n (line :: rest)
      = ⟨n, Text.strip line, some (.getOutput name), .keep name⟩ :: stepsFrom (n + 1) rest := by
  have hsilent : ¬ isSilent (Text.strip line) := by
    intro hsilent
    rw [ofLine_of_isSilent hsilent] at h
    cases h
  rw [stepsFrom_statement n rest hsilent, h]
  rfl

/-- Wherever a line stands in a block, it makes a step of its own, and when that step has been
    carried out, the token of `name` stands for the last result. -/
def KeepsReadably (line name : String) : Prop :=
  ∀ n rest, ∃ s, stepsFrom n (line :: rest) = s :: stepsFrom (n + 1) rest
    ∧ ∀ (c : Collaborators) (w : World) (run : Run),
      (w.play c ((RunM.step s).from run)).1.2.context.resolve (tokenOf name)
        = run.lastResult.toText

end Script

namespace World

/-- The step that keeps the last result binds the name to it. If the result cannot be shown in the
    trace, that comes after. -/
theorem play_step_keep (c : Collaborators) (w : World) (run : Run) {s : Script.Step} {name : String}
    (h : s.action = .keep (some name)) :
    (w.play c ((RunM.step s).from run)).1.2
      = { run with context := run.context.put name run.lastResult } := by
  rw [RunM.step, h]
  change (World.play c (w.answer c (.trace ⟨.interpreter, 2, s.shown⟩)).2
    ((RunM.keep name).from run)).1.2 = _
  generalize (w.answer c (.trace ⟨.interpreter, 2, s.shown⟩)).2 = w'
  have hbind (f : Unit → RunM Unit) :
      (RunM.bindName name run.lastResult >>= f).from run
        = (f ()).from { run with context := run.context.put name run.lastResult } := rfl
  rw [RunM.keep, RunM.from_get_bind, hbind, RunM.from_bind, RunM.from_lift]
  cases run.lastResult.literal <;> rfl

end World

namespace Script

/-- The token of a name reads what was kept under it, if tokens can read the name at all. -/
theorem keepsReadably_iff {line name : String}
    (h : Statement.ofLine (Text.strip line) = some (.getOutput (some name))) :
    KeepsReadably line name ↔ IsReadable name := by
  constructor
  · intro hkeeps
    refine ⟨isNamed_of_ofLine h name rfl, ?_⟩
    by_contra hword
    -- a run in which nothing is bound, and whose last result does not look like a token
    let run : Run := { context := ⟨.empty⟩, lastResult := .null }
    obtain ⟨s, hs, hreads⟩ := hkeeps 0 []
    rw [stepsFrom_getOutput 0 [] h, List.cons.injEq] at hs
    have hread := hreads (.replying fun prompt _ => .ok prompt) (.initial {} 0) run
    rw [← hs.1, World.play_step_keep _ _ _ rfl] at hread
    have hunbound : (run.context.put name .null).BindsNoWord := by
      intro other hother
      have hne : other ≠ name := by
        rintro rfl
        exact hword hother
      exact Bindings.get?_put_of_ne _ hne _
    have hbracket : "null".toList.head? = some '[' := by
      refine Context.head?_resolve_bracket (s := name.toList ++ [']']) hunbound ?_
      rw [← Context.tokenOf_toList, String.ofList_toList]
      exact hread
    cases hbracket
  · intro hname n rest
    refine ⟨_, stepsFrom_getOutput n rest h, fun c w run => ?_⟩
    rw [World.play_step_keep c w run rfl]
    exact Context.resolve_tokenOf hname (Bindings.get?_put_self _ _ _)

/-- Just the names of word characters can be used after they have been written. For a name that a
    line keeps the last result under, that means that its token reads the last result; for the name
    of an agent that a line registers, that there is a line that calls the agent. -/
theorem usable_iff_isReadable :
    (∀ line name, Statement.ofLine (Text.strip line) = some (.getOutput (some name)) →
        (KeepsReadably line name ↔ IsReadable name))
      ∧ ∀ line agent, Statement.ofLine (Text.strip line) = some (.setId (some agent)) →
        ((∃ arguments, Statement.ofLine (callLine agent arguments) = some (.agentCall agent))
          ↔ IsReadable agent) := by
  refine ⟨fun line name h => keepsReadably_iff h, fun line agent _ => ?_⟩
  constructor
  · rintro ⟨arguments, hcall⟩
    exact ofLine_callLine_iff.1 hcall
  · intro hagent
    exact ⟨"", ofLine_callLine_iff.2 hagent⟩

theorem usable_iff_isReadable_words :
    Statement.ofLine (Text.strip "getOutput as \"note_1\" ") = some (.getOutput (some "note_1"))
      ∧ KeepsReadably "getOutput as \"note_1\" " "note_1"
      ∧ Statement.ofLine (Text.strip "setID as \"Kritikerin\"") = some (.setId (some "Kritikerin"))
      ∧ ∃ arguments, Statement.ofLine (callLine "Kritikerin" arguments)
        = some (.agentCall "Kritikerin") := by
  have houtput : Statement.ofLine (Text.strip "getOutput as \"note_1\" ")
      = some (.getOutput (some "note_1")) := by rfl
  have hagent : Statement.ofLine (Text.strip "setID as \"Kritikerin\"")
      = some (.setId (some "Kritikerin")) := by rfl
  exact ⟨houtput, (usable_iff_isReadable.1 _ _ houtput).2 (by decide +kernel), hagent,
    (usable_iff_isReadable.2 _ _ hagent).2 (by decide +kernel)⟩

/-- A run of a block from the start, with nothing in the workspace. -/
def outcomeOf (block : String) : Except Failure Unit × Run :=
  ((World.initial {} 0).play (.replying fun prompt _ => .ok prompt)
    ((RunM.runBlock block).from (.start (.str "")))).1

/-- Names with a blank in them can be written, but not used: the token of one does not read the last
    result that has been kept under it, and no line calls an agent that is registered as one. -/
theorem usable_of_blank_fails :
    Statement.ofLine "getOutput as \"my note\"" = some (.getOutput (some "my note"))
      ∧ (outcomeOf "getOutput as \"my note\"").1.isOk
      ∧ ((outcomeOf "getOutput as \"my note\"").2.context.resolve "[my note]").toOption
        = some "[my note]"
      ∧ (outcomeOf "getOutput as \"my note\"").2.lastResult.toText.toOption = some "null"
      ∧ Statement.ofLine "setID as \"my agent\"" = some (.setId (some "my agent"))
      ∧ (outcomeOf "createAI(\"Be brief\")\nsetID as \"my agent\"").1.isOk
      ∧ (outcomeOf "createAI(\"Be brief\")\nsetID as \"my agent\"").2.agents.get? "my agent"
        = some "Be brief"
      ∧ ∀ arguments, Statement.ofLine (callLine "my agent" arguments)
        ≠ some (.agentCall "my agent") := by
  refine ⟨by rfl, by decide +kernel, by decide +kernel, by decide +kernel, by rfl,
    by decide +kernel, by decide +kernel, fun arguments hcall => ?_⟩
  have hblank : ¬ IsReadable "my agent" := by decide +kernel
  exact hblank (ofLine_callLine_iff.1 hcall)

end Script

end AgentScript
