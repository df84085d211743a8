import AgentScript.Proofs.Run.Contract

set_option autoImplicit false

/-! # What commands may do

The footprint of a command says which requests it may put and what of the run it may change
(`Command.footprint`), and from it follow the footprints of the actions of a block. Commands, steps
and blocks stay within any footprint that allows theirs, and fail for ordinary reasons unless a
collaborator does otherwise. -/

namespace AgentScript

/-! ## Footprints -/

/-- The requests that carrying out a command may put. -/
def Command.mayAsk : Command → Request → Bool
  | _, .trace _ => true
  | .log _, .logAction _ => true
  | .createNote _ _, .addNote _ _ => true
  | .getNote _, .noteContent _ => true
  | .updateNote _ _, .updateNote _ _ => true
  | .deleteNote _, .deleteNote _ => true
  | .updatePlan _ _, .updatePlan _ _ => true
  | .execute _, .engineState | .execute _, .logAction _ | .execute _, .boot
  | .execute _, .engineReady | .execute _, .runCode _ | .execute _, .deliver _ _ => true
  | .runAI _, .generate _ none => true
  | .runAgent _ _, .logAction _ | .runAgent _ _, .generate _ (some _) => true
  | .saveFile _ _, .addFile _ => true
  | .deleteFile _, .removeFiles _ => true
  | .getFile _, .findFile _ => true
  | .changeMusic _, .playMusic _ => true
  | _, _ => false

/-- The requests with which the sandbox is prepared. -/
def Request.prepares : Request → Bool
  | .engineState | .logAction _ | .boot | .engineReady => true
  | _ => false

/-- How carrying out a command may change the run. -/
def Command.mayMove (c : Command) (run after : Run) : Prop :=
  match c with
  | .execute _ => ∃ context v, after = { run with context := context, lastResult := v }
  | .createAI _ => ∃ instruction, after = { run with pending := instruction }
  | .getNote _ | .runAI _ | .runAgent _ _ | .saveFile _ _ | .deleteFile _ | .getFile _ =>
    ∃ v, after = { run with lastResult := v }
  | _ => after = run

/-- What a command may do. -/
def Command.footprint (c : Command) : Footprint :=
  ⟨fun q => c.mayAsk q, c.mayMove⟩

/-- What an action of a step may do. -/
def Script.Action.footprint : Script.Action → Footprint
  | .callAgent agent arguments => (Command.ofAgentCall agent arguments).footprint
  | .callCommand name arguments =>
    ⟨fun q => ∃ c, Command.ofCall name arguments = .ok c ∧ c.footprint.asks q,
      fun run after => ∃ c, Command.ofCall name arguments = .ok c ∧ c.footprint.moves run after⟩
  | .override _ | .keep _ =>
    ⟨fun _ => False, fun run after => ∃ context, after = { run with context := context }⟩
  | .register _ =>
    ⟨fun q => ∃ message, q = .logAction message,
      fun run after => ∃ agents, after = { run with agents := agents, pending := none }⟩
  | .nothing => ⟨fun _ => False, fun run after => after = run⟩

namespace RunM

variable {fails : Failure → Prop} {foot : Footprint} (h : foot.Covers fails)

include h

/-! ## The sandbox -/

theorem executeFailure_in (fault : String → CommandFault) {f : Failure} (hf : fails f) :
    fails (executeFailure fault f) := by
  unfold executeFailure
  split
  · exact h.own _ rfl
  · exact hf

section

variable {code : String} (hc : (Command.execute code).footprint.Within foot)

include hc

theorem writeOutput_keeps (key : String) (v : Value) :
    (writeOutput key v).Keeps fails foot fun _ => True := by
  refine .bind h (.modify fun run => hc.moves _ _ ⟨_, run.lastResult, rfl⟩) fun _ _ => ?_
  refine .bind h (.modify fun run => hc.moves _ _ ⟨run.context, _, rfl⟩) fun _ _ => ?_
  exact .bind h (lift_keeps h v.literal_failsIn) fun _ _ => trace_keeps h _ _

omit hc in
theorem readInput_keeps (key : String) : (readInput key).Keeps fails foot fun _ => True := by
  refine .bind h (.get h) fun run _ => ?_
  split
  · exact .pure h trivial
  · exact .bind h (resolve_keeps h _) fun _ _ => .pure h trivial

theorem perform_keeps (activity : Activity) (ha : activity.FailsIn fails) :
    (perform activity).Keeps fails foot (FailsIn fails) := by
  induction activity with
  | finish result => exact .pure h ha
  | read key next ih =>
      -- the code is told of a failure to read, and goes on
      refine .bind h (.attempt (readInput_keeps h key)) fun input hinput => ?_
      cases input with
      | ok v => exact .bind h (.request h (hc.asks _ rfl)) fun _ _ => ih _ (ha _ hinput)
      | error f => exact ih _ (ha _ hinput)
  | write key value next ih =>
      exact .bind h (.attempt (writeOutput_keeps h hc key value)) fun written hwritten =>
        ih written (ha written hwritten)
  | note message next ih => exact .bind h (.request h (h.trace _)) fun _ _ => ih ha

omit hc in
/-- Ensuring that the sandbox is prepared puts the requests that prepare it. -/
theorem ensureEngine_keeps (hprepares : ∀ q : Request, q.prepares → foot.asks q) :
    ensureEngine.Keeps fails foot fun _ => True := by
  refine .bind h (.request h (hprepares _ rfl)) fun state _ => ?_
  cases state with
  | absent => exact failCommand_keeps h _ _
  | ready => exact .pure h trivial
  | cold =>
      refine .bind h (.request h (hprepares _ rfl)) fun _ _ => ?_
      refine .bind h (.request h (hprepares _ rfl)) fun boot hboot => ?_
      refine .bind h (.forM h _ fun note => .request h (h.trace _)) fun _ _ => ?_
      obtain ⟨notes, f | a⟩ := boot
      · exact .fail h (executeFailure_in h _ hboot)
      · exact .request h (hprepares _ rfl)

theorem execute_keeps : (execute code).Keeps fails foot fun _ => True := by
  have hprepares : ∀ q : Request, q.prepares → foot.asks q :=
    fun q hq => hc.asks q (by cases q <;> first | rfl | cases hq)
  refine .bind h (ensureEngine_keeps h hprepares) fun _ _ => ?_
  refine .bind h (resolve_keeps h _) fun code _ => ?_
  refine .bind h (.request h (hc.asks _ rfl)) fun activity hactivity => ?_
  refine .bind h (perform_keeps h hc activity hactivity) fun result hresult => ?_
  cases result with
  | ok v => exact .modify fun run => hc.moves _ _ ⟨run.context, v, rfl⟩
  | error f => exact .fail h (executeFailure_in h _ hresult)

end

/-! ## Commands -/

/-- Carrying out a command stays within the command's footprint. -/
theorem dispatch_keeps (c : Command) (hc : c.footprint.Within foot) :
    (dispatch c).Keeps fails foot fun _ => True := by
  unfold dispatch
  refine .bind h (trace_keeps h _ _) fun _ _ => ?_
  cases c with
  | log message => exact .bind h (resolve_keeps h _) fun _ _ => .request h (hc.asks _ rfl)
  | createNote title content =>
      refine .bind h (resolve?_keeps h _) fun title _ => ?_
      refine .bind h (require_keeps h _ _ _) fun _ _ => ?_
      exact .bind h (resolve?_keeps h _) fun _ _ => .request h (hc.asks _ rfl)
  | getNote title =>
      refine .bind h (resolve_keeps h _) fun title _ => ?_
      refine .bind h (.request h (hc.asks _ rfl)) fun found _ => ?_
      cases found with
      | none => exact failCommand_keeps h _ _
      | some content => exact .modify fun run => hc.moves _ _ ⟨_, rfl⟩
  | updateNote title content =>
      refine .bind h (resolve?_keeps h _) fun title _ => ?_
      refine .bind h (resolve?_keeps h _) fun content _ => ?_
      refine .bind h (require_keeps h _ _ _) fun _ _ => ?_
      exact .bind h (.request h (hc.asks _ rfl)) fun _ _ => require_keeps h _ _ _
  | deleteNote title =>
      refine .bind h (resolve_keeps h _) fun title _ => ?_
      exact .bind h (.request h (hc.asks _ rfl)) fun _ _ => require_keeps h _ _ _
  | updatePlan task status =>
      refine .bind h (resolve?_keeps h _) fun task _ => ?_
      refine .bind h (resolve?_keeps h _) fun status _ => ?_
      refine .bind h (require_keeps h _ _ _) fun _ _ => ?_
      exact .bind h (.request h (hc.asks _ rfl)) fun _ _ => require_keeps h _ _ _
  | execute code => exact execute_keeps h hc
  | createAI instruction =>
      exact .bind h (resolve_keeps h _) fun _ _ => .modify fun run => hc.moves _ _ ⟨_, rfl⟩
  | runAI prompt =>
      refine .bind h (require_keeps h _ _ _) fun _ _ => ?_
      refine .bind h (resolve_keeps h _) fun prompt _ => ?_
      have hgenerate := hc.asks (.generate prompt none) rfl
      refine .bind h (generate_keeps h hgenerate fun _ => rfl) fun _ _ => ?_
      exact .modify fun run => hc.moves _ _ ⟨_, rfl⟩
  | runAgent agent prompt =>
      refine .bind h (resolve_keeps h _) fun prompt _ => .bind h (.get h) fun run _ => ?_
      cases Command.nonempty? (run.agents.get? agent) with
      | none => exact failCommand_keeps h _ _
      | some instruction =>
          refine .bind h (.request h (hc.asks _ rfl)) fun _ _ => ?_
          have hgenerate := hc.asks (.generate prompt (some instruction)) rfl
          refine .bind h (generate_keeps h hgenerate fun _ => rfl) fun _ _ => ?_
          exact .modify fun run => hc.moves _ _ ⟨_, rfl⟩
  | saveFile name url =>
      refine .bind h (resolve?_keeps h _) fun name _ => ?_
      refine .bind h (resolve?_keeps h _) fun url _ => ?_
      refine .bind h (require_keeps h _ _ _) fun _ _ => ?_
      refine .bind h (.request h (hc.asks _ rfl)) fun _ _ => ?_
      exact .modify fun run => hc.moves _ _ ⟨_, rfl⟩
  | deleteFile name =>
      refine .bind h (resolve_keeps h _) fun name _ => ?_
      refine .bind h (.request h (hc.asks _ rfl)) fun _ _ => ?_
      exact .modify fun run => hc.moves _ _ ⟨_, rfl⟩
  | getFile name =>
      refine .bind h (resolve_keeps h _) fun name _ => ?_
      refine .bind h (.request h (hc.asks _ rfl)) fun found _ => ?_
      cases found with
      | none => exact failCommand_keeps h _ _
      | some file => exact .modify fun run => hc.moves _ _ ⟨_, rfl⟩
  | changeMusic mood => exact .bind h (resolve_keeps h _) fun _ _ => .request h (hc.asks _ rfl)
  | blank => exact failCommand_keeps h _ _

omit h in
theorem ofCall_failsIn (name arguments : String) :
    FailsIn IsOrdinary (Command.ofCall name arguments) := by
  unfold Command.ofCall
  dsimp only
  split <;> first | exact .ok _ | exact rfl

/-! ## Blocks -/

/-- Carrying out an action of a step stays within the action's footprint. -/
theorem act_keeps (action : Script.Action) (ha : action.footprint.Within foot) :
    (act action).Keeps fails foot fun _ => True := by
  cases action with
  | override body =>
      exact .bind h (resolve_keeps h _) fun _ _ => .modify fun run => ha.moves _ _ ⟨_, rfl⟩
  | callAgent agent arguments => exact dispatch_keeps h _ ha
  | callCommand name arguments =>
      refine .bind h (.lift h ((ofCall_failsIn name arguments).mono h.own)) fun c hc => ?_
      exact dispatch_keeps h c
        ⟨fun q hq => ha.asks q ⟨c, hc, hq⟩, fun run after hm => ha.moves run after ⟨c, hc, hm⟩⟩
  | keep name =>
      cases name with
      | none => exact .pure h trivial
      | some name =>
          refine .bind h (.get h) fun run _ => ?_
          refine .bind h (.modify fun run => ha.moves _ _ ⟨_, rfl⟩) fun _ _ => ?_
          exact .bind h (lift_keeps h (Value.literal_failsIn _)) fun _ _ => trace_keeps h _ _
  | register agent =>
      refine .bind h (.get h) fun run _ => ?_
      split
      · refine .bind h (.modify fun run => ha.moves _ _ ⟨_, rfl⟩) fun _ _ => ?_
        exact .request h (ha.asks _ ⟨_, rfl⟩)
      · exact .fail h (h.own _ rfl)
  | nothing => exact .pure h trivial

/-- Carrying out steps stays within the footprints of their actions. -/
theorem runSteps_keeps (steps : List Script.Step)
    (hsteps : ∀ s ∈ steps, s.action.footprint.Within foot) :
    (runSteps steps).Keeps fails foot fun _ => True := by
  induction steps with
  | nil => exact .pure h trivial
  | cons s rest ih =>
      have hstep : (step s).Keeps fails foot fun _ => True :=
        .bind h (trace_keeps h _ _) fun _ _ => act_keeps h _ (hsteps s List.mem_cons_self)
      exact .bind h hstep fun _ _ => ih fun s' hs' => hsteps s' (List.mem_cons_of_mem s hs')

theorem runBlock?_keeps (announcement : String) (block : Option String)
    (hblock : ∀ text, Command.nonempty? block = some text →
      ∀ s ∈ Script.steps text, s.action.footprint.Within foot) :
    (runBlock? announcement block).Keeps fails foot fun _ => True := by
  unfold runBlock?
  cases hb : Command.nonempty? block with
  | none => exact .pure h trivial
  | some text => exact .bind h (trace_keeps h _ _) fun _ _ => runSteps_keeps h _ (hblock text hb)

/-- Making the answer logs, asks for text and changes the context. -/
theorem produceAnswer_keeps (hlog : ∀ message, foot.asks (.logAction message))
    (hgenerate : ∀ prompt, foot.asks (.generate prompt none))
    (hmoves : ∀ run context, foot.moves run { run with context := context })
    (blocks : Script.Blocks) : (produceAnswer blocks).Keeps fails foot fun _ => True := by
  unfold produceAnswer
  split
  · exact .bind h (resolve_keeps h _) fun _ _ => .modify fun run => hmoves run _
  · refine .bind h (resolve_keeps h _) fun prompt _ => .bind h (.request h (hlog _)) fun _ _ => ?_
    refine .bind h (generate_keeps h (hgenerate _) fun _ => rfl) fun _ _ => ?_
    exact .modify fun run => hmoves run _
  · exact .pure h trivial

theorem postAnswer_keeps (hrender : ∀ text, foot.asks (.render text))
    (hpost : ∀ message, foot.asks (.addMessage message)) :
    postAnswer.Keeps fails foot fun _ => True := by
  refine .bind h (.get h) fun run _ => ?_
  dsimp only
  split
  · refine .bind h (lift_keeps h run.context.answer_failsIn) fun text _ => ?_
    refine .bind h (.request h (hrender text)) fun rendered hrendered => ?_
    exact .bind h (.lift h hrendered) fun _ _ => .trivially (.request h (hpost _))
  · exact .pure h trivial

end RunM

end AgentScript
