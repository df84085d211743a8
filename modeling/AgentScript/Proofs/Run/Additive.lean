import AgentScript.Proofs.Run.Requests

set_option autoImplicit false

/-! # Scripts that only add

A request is *additive* if it leaves alone what is in the workspace already: it adds to a list, or
has nothing to do with the workspace. A script that runs no code and calls no command that reads,
changes or removes what is there puts additive requests only (`runScript_onlyAdds`). -/

namespace AgentScript

/-- The requests that add something to the workspace, or that do not concern it. -/
def Request.isAdditive : Request → Bool
  | .logAction _ | .addMessage _ | .addNote _ _ | .addFile _ | .playMusic _ | .render _
  | .generate _ _ | .trace _ => true
  | _ => false

/-- A dialogue that puts additive requests only. -/
def Dialogue.OnlyAdds {α : Type} (d : Dialogue α) : Prop :=
  d.Keeps (fun _ => True) (fun q => q.isAdditive) fun _ => True

/-! ## Scripts -/

/-- The commands that run code, or that read, change or remove what is in the workspace. -/
def Command.entangling : List String :=
  ["execute", "getNote", "updateNote", "deleteNote", "updatePlan", "getFile", "deleteFile"]

/-- The name of the command that an action calls. -/
def Script.Action.command? : Script.Action → Option String
  | .callCommand name _ => some name
  | _ => none

/-- The steps of the blocks that a script runs. -/
def Script.stepsOf (source : String) : List Step :=
  let blocks := Blocks.ofText source
  [blocks.beforePrompt, blocks.afterPrompt].flatMap fun block =>
    (Command.nonempty? block).elim [] steps

/-- A script in which nothing calls a command that is entangled with what is in the workspace. -/
def Script.OnlyAdds (source : String) : Prop :=
  ∀ s ∈ stepsOf source, ∀ name ∈ s.action.command?, name ∉ Command.entangling

instance (source : String) : Decidable (Script.OnlyAdds source) :=
  inferInstanceAs (Decidable (∀ s ∈ Script.stepsOf source, ∀ name ∈ s.action.command?,
    name ∉ Command.entangling))

/-! ## Their requests -/

/-- What may be done by adding only. -/
def additive : Footprint :=
  ⟨fun q => q.isAdditive, fun _ _ => True⟩

theorem covers_additive : additive.Covers fun _ => True where
  own _ _ := trivial
  trace _ := rfl
  refl _ := trivial
  trans _ _ := trivial

theorem Command.ofCall_name {name arguments : String} {c : Command}
    (h : ofCall name arguments = .ok c) : c.name = name := by
  unfold ofCall at h
  dsimp only at h
  split at h <;> first | (cases h; rfl) | cases h

theorem Command.within_additive {c : Command} (h : c.name ∉ entangling) :
    c.footprint.Within additive := by
  refine ⟨fun q hq => ?_, fun _ _ _ => trivial⟩
  cases c with
  | log | createNote | createAI | runAI | runAgent | saveFile | changeMusic | blank =>
      cases q <;> first | rfl | exact absurd hq Bool.false_ne_true
  | _ => exact absurd h (by simp [name, entangling])

theorem Script.Action.within_additive {action : Script.Action}
    (h : ∀ name ∈ action.command?, name ∉ Command.entangling) :
    action.footprint.Within additive := by
  refine ⟨fun q hq => ?_, fun _ _ _ => trivial⟩
  cases action with
  | callAgent agent arguments =>
      have hname : (Command.ofAgentCall agent arguments).name ∉ Command.entangling :=
        (by decide : "runAI_Agent" ∉ Command.entangling)
      exact (Command.within_additive hname).asks q hq
  | callCommand name arguments =>
      obtain ⟨c, hc, hq⟩ := hq
      have hname : c.name ∉ Command.entangling := by
        rw [Command.ofCall_name hc]
        exact h name rfl
      exact (Command.within_additive hname).asks q hq
  | register agent =>
      obtain ⟨message, rfl⟩ := hq
      rfl
  | _ => exact hq.elim

theorem RunM.phases_keeps_additive {source : String} (h : Script.OnlyAdds source) :
    (phases source).Keeps (fun _ => True) additive fun _ => True := by
  have hblock (announcement : String) (block : Option String)
      (hmem : block ∈ [(Script.Blocks.ofText source).beforePrompt,
        (Script.Blocks.ofText source).afterPrompt]) :
      (runBlock? announcement block).Keeps (fun _ => True) additive fun _ => True := by
    refine runBlock?_keeps covers_additive announcement block fun text htext s hs => ?_
    refine Script.Action.within_additive (h s (List.mem_flatMap.2 ⟨block, hmem, ?_⟩))
    rwa [htext]
  refine .bind covers_additive (trace_keeps covers_additive _ _) fun _ _ => ?_
  refine .bind covers_additive (hblock _ _ (by simp)) fun _ _ => ?_
  refine .bind covers_additive (produceAnswer_keeps covers_additive (fun _ => rfl) (fun _ => rfl)
    (fun _ _ => trivial) _) fun _ _ => ?_
  refine .bind covers_additive (hblock _ _ (by simp)) fun _ _ => ?_
  exact postAnswer_keeps covers_additive (fun _ => rfl) fun _ => rfl

theorem runScript_onlyAdds {source : String} (h : Script.OnlyAdds source) (prompt : Value) :
    (runScript source prompt).OnlyAdds := by
  rw [runScript_eq_conclude]
  refine Dialogue.Keeps.bind (RunM.phases_keeps_additive h (.start prompt)) fun r _ => ?_
  obtain ⟨f | _, run⟩ := r
  · change Dialogue.Keeps _ _ _ (if f.isOrdinary then _ else _)
    split
    · exact ⟨rfl, fun _ _ => ⟨rfl, fun _ _ => trivial⟩⟩
    · trivial
  · trivial

end AgentScript
