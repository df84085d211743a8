import AgentScript.Proofs.Run.Look

set_option autoImplicit false

/-! # What a failing command leaves

A command that fails leaves what it found. All it may have done is to announce itself in the log of
actions, and code that it ran may have set outputs before it failed
(`World.play_dispatch_error`). Every command looks before it writes (`RunM.dispatch_intact`), except
for the one that runs code, which is followed through its activity (`RunM.play_perform`). -/

namespace AgentScript

variable {α β : Type}

/-! ## Changes that find nothing to change -/

namespace Workspace

theorem changeFirst_of_any_eq_false {p : α → Bool} {f : α → α} {l : List α}
    (h : l.any p = false) : changeFirst p f l = l := by
  induction l with
  | nil => rfl
  | cons a rest ih =>
      rw [List.any_cons, Bool.or_eq_false_iff] at h
      simp only [changeFirst, h.1, Bool.false_eq_true, if_false, ih h.2]

theorem updateNote_eq_self {w : Workspace} {title content : String}
    (h : (w.updateNote title content).1 = false) : (w.updateNote title content).2 = w := by
  change { w with notes := _ } = w
  rw [changeFirst_of_any_eq_false h]

theorem deleteNote_eq_self {w : Workspace} {title : String}
    (h : (w.deleteNote title).1 = false) : (w.deleteNote title).2 = w := by
  change { w with notes := _ } = w
  rw [List.eraseP_of_forall_not]
  simpa [deleteNote] using h

theorem updatePlan_eq_self {w : Workspace} {task status : String}
    (h : (w.updatePlan task status).1 = false) : (w.updatePlan task status).2 = w := by
  change { w with plan := _ } = w
  rw [changeFirst_of_any_eq_false h]

end Workspace

namespace RunM

/-- A command that runs no code is intact when it fails. -/
theorem dispatch_intact {command : Command} (h : ∀ code, command ≠ .execute code) :
    (dispatch command).Intact 1 := by
  unfold dispatch
  refine .first (.of_keeps (trace_keeps covers_looking _ _)) fun _ => ?_
  cases command with
  | log message =>
      exact .first (.resolve _) fun _ => .of_succeeds (succeeds_request _)
  | createNote title content =>
      refine .first (.resolve? _) fun title => ?_
      refine .first (.require _ _ _) fun _ => .first (.resolve? _) fun _ => ?_
      exact .of_succeeds (succeeds_request _)
  | getNote title =>
      refine .first (.resolve _) fun title => ?_
      have hasks : (request (.noteContent title)).Looks 0 := .request rfl
      refine .first hasks fun found => ?_
      cases found with
      | none => exact .of_looks (.fail _)
      | some content => exact .of_succeeds (succeeds_modify _)
  | updateNote title content =>
      refine .first (.resolve? _) fun title => ?_
      refine .first (.resolve? _) fun content => .first (.require _ _ _) fun _ => ?_
      refine .refuse fun c w hfound => ?_
      exact w.spares_of_unchanged c (fun _ => nofun) (Workspace.updateNote_eq_self hfound)
  | deleteNote title =>
      refine .first (.resolve _) fun title => .refuse fun c w hfound => ?_
      exact w.spares_of_unchanged c (fun _ => nofun) (Workspace.deleteNote_eq_self hfound)
  | updatePlan task status =>
      refine .first (.resolve? _) fun task => ?_
      refine .first (.resolve? _) fun status => .first (.require _ _ _) fun _ => ?_
      refine .refuse fun c w hfound => ?_
      exact w.spares_of_unchanged c (fun _ => nofun) (Workspace.updatePlan_eq_self hfound)
  | execute code => exact absurd rfl (h code)
  | createAI instruction =>
      refine .first (.resolve _) fun _ => ?_
      exact .of_succeeds (succeeds_modify _)
  | runAI prompt =>
      refine .first (.require _ _ _) fun _ => ?_
      refine .first (.resolve _) fun prompt => ?_
      exact .last (.of_looks (.generate _ _ fun _ => rfl)) fun _ => succeeds_modify _
  | runAgent agent prompt =>
      refine .first (.resolve _) fun prompt => ?_
      refine .first (.of_keeps (.get covers_looking)) fun run => ?_
      cases Command.nonempty? (run.agents.get? agent) with
      | none => exact .of_looks (.fail _)
      | some instruction =>
          -- the line that says that the agent is thinking
          refine .bind (n := 0) (.logAction _) fun _ => ?_
          exact .last (.of_looks (.generate _ _ fun _ => rfl)) fun _ => succeeds_modify _
  | saveFile name url =>
      refine .first (.resolve? _) fun name => ?_
      refine .first (.resolve? _) fun url => .first (.require _ _ _) fun _ => ?_
      exact .last (.of_succeeds (succeeds_request _)) fun _ => succeeds_modify _
  | deleteFile name =>
      refine .first (.resolve _) fun _ => ?_
      exact .last (.of_succeeds (succeeds_request _)) fun _ => succeeds_modify _
  | getFile name =>
      refine .first (.resolve _) fun name => ?_
      have hasks : (request (.findFile name)).Looks 0 := .request rfl
      refine .first hasks fun found => ?_
      cases found with
      | none => exact .of_looks (.fail _)
      | some file => exact .of_succeeds (succeeds_modify _)
  | changeMusic mood =>
      refine .first (.resolve _) fun _ => ?_
      exact .of_succeeds (succeeds_request _)
  | blank => exact .of_looks (.fail _)

end RunM

/-! ## The outputs of code -/

/-- The run after code has set an output. -/
def Run.setOutput (run : Run) (key : String) (v : Value) : Run :=
  { run with context := run.context.put key v, lastResult := v }

/-- The run after code has set outputs, one after the other. -/
def Run.setOutputs (run : Run) (outputs : List (String × Value)) : Run :=
  outputs.foldl (fun run output => run.setOutput output.1 output.2) run

/-- What code gets to know when it reads an input. -/
def Run.input (run : Run) (key : String) : Except Failure Value :=
  match run.context.get? key with
  | some v => .ok v
  | none => (run.context.resolve ("[" ++ key ++ "]")).map .str

/-- The outputs that an activity sets when it acts on a run, in their order. An output is set also
    if the code is then told that it cannot be recorded. -/
def Activity.outputs (run : Run) : Activity → List (String × Value)
  | .finish _ => []
  | .read key next => (next (run.input key)).outputs run
  | .write key v next =>
    (key, v) :: (next (v.literal.map fun _ => ())).outputs (run.setOutput key v)
  | .note _ next => next.outputs run

/-- What an activity ends with when it acts on a run. -/
def Activity.result (run : Run) : Activity → Except Failure Value
  | .finish result => result
  | .read key next => (next (run.input key)).result run
  | .write key v next => (next (v.literal.map fun _ => ())).result (run.setOutput key v)
  | .note _ next => next.result run

/-- The outputs that are set in an exchange in which code is run. -/
def Exchange.outputs (run : Run) : Exchange → List (String × Value)
  | ⟨.runCode _, activity⟩ => activity.outputs run
  | _ => []

theorem Run.setOutputs_fields (run : Run) (outputs : List (String × Value)) :
    (run.setOutputs outputs).agents = run.agents ∧ (run.setOutputs outputs).pending = run.pending
      ∧ (run.setOutputs outputs).error = run.error := by
  induction outputs generalizing run with
  | nil => exact ⟨rfl, rfl, rfl⟩
  | cons output rest ih => exact ih (run.setOutput output.1 output.2)

theorem Exchange.outputs_of_code? {e : Exchange} (h : e.code? = none) (run : Run) :
    e.outputs run = [] := by
  obtain ⟨q, reply⟩ := e
  cases q with
  | runCode code => cases h
  | _ => rfl

theorem outputs_of_no_code {exchanges : List Exchange} (h : ∀ e ∈ exchanges, e.code? = none)
    (run : Run) : (exchanges.flatMap fun e => e.outputs run) = [] :=
  List.flatMap_eq_nil_iff.2 fun e he => e.outputs_of_code? (h e he) run

namespace RunM

theorem from_readInput (key : String) (run : Run) :
    (readInput key).from run = .done (run.input key, run) := by
  change RunM.from (match run.context.get? key with
    | some v => _
    | none => _) run = _
  unfold Run.input
  cases run.context.get? key with
  | some v => rfl
  | none =>
      cases hresolve : run.context.resolve ("[" ++ key ++ "]") with
      | ok text => exact from_resolve_bind_ok hresolve _
      | error f => exact from_resolve_bind_error hresolve _

theorem play_bind_ok {c : Collaborators} {w w' : World} {x : RunM α} {run after : Run} {a : α}
    (h : w.play c (x.from run) = ((.ok a, after), w')) (f : α → RunM β) :
    w.play c ((x >>= f).from run) = w'.play c ((f a).from after) := by
  rw [World.play_from_bind, h]
  rfl

theorem play_attempt {c : Collaborators} {w w' : World} {x : RunM α} {run after : Run}
    {r : Except Failure α} (h : w.play c (x.from run) = ((r, after), w')) :
    w.play c ((attempt x).from run) = ((.ok r, after), w') := by
  rw [from_attempt, World.play_bind, h]
  rfl

/-- An output is set whether or not it can be recorded. -/
theorem play_writeOutput (c : Collaborators) (w : World) (key : String) (v : Value) (run : Run) :
    ∃ w', w.play c ((writeOutput key v).from run)
        = ((v.literal.map fun _ => (), run.setOutput key v), w')
      ∧ w.Spares 0 w' := by
  change ∃ w', w.play c ((lift v.literal >>= fun text =>
    trace 3 ("sandbox set " ++ key ++ " = " ++ text)).from (run.setOutput key v)) = _ ∧ _
  rw [from_bind, from_lift]
  cases v.literal with
  | ok text =>
      refine ⟨_, rfl, ?_⟩
      exact w.answer_spares c (q := .trace _) rfl
  | error f => exact ⟨w, rfl, .refl w⟩

/-- Code that is performed sets its outputs and spares the world. -/
theorem play_perform (c : Collaborators) (activity : Activity) (w : World) (run : Run) :
    ∃ w', w.play c ((perform activity).from run)
        = ((.ok (activity.result run), run.setOutputs (activity.outputs run)), w')
      ∧ w.Spares 0 w' := by
  induction activity generalizing w run with
  | finish result => exact ⟨w, rfl, .refl w⟩
  | read key next ih =>
      have hread : w.play c ((readInput key).from run) = ((run.input key, run), w) := by
        rw [from_readInput]
        rfl
      rw [perform, play_bind_ok (play_attempt hread), Activity.result, Activity.outputs]
      -- the code goes on with what it has read, be it a value or a failure
      generalize run.input key = input
      cases input with
      | error f => exact ih (.error f) w run
      | ok v =>
          obtain ⟨w', hplay, hspares⟩ := ih (.ok v) (w.answer c (.deliver key v)).2 run
          exact ⟨w', hplay, (w.answer_spares c (q := .deliver key v) rfl).trans hspares⟩
  | write key v next ih =>
      obtain ⟨between, hwrite, hspares⟩ := play_writeOutput c w key v run
      obtain ⟨w', hplay, hspares'⟩ := ih (v.literal.map fun _ => ()) between (run.setOutput key v)
      rw [perform, play_bind_ok (play_attempt hwrite)]
      exact ⟨w', hplay, hspares.trans hspares'⟩
  | note message next ih =>
      obtain ⟨w', hplay, hspares⟩ := ih (w.answer c (.trace ⟨.sandbox, 1, message⟩)).2 run
      exact ⟨w', hplay, (w.answer_spares c (q := .trace _) rfl).trans hspares⟩

/-- What an execution does with the result of its code. -/
def concludeExecution : Except Failure Value → RunM Unit
  | .ok v => setResult v
  | .error f => fail (executeFailure (fun message => .codeFailed (stripMark message)) f)

/-- An execution prepares the sandbox and resolves the code before it runs it. -/
theorem execute_eq (code : String) :
    execute code = (ensureEngine >>= fun _ => resolve code) >>= fun text =>
      request (.runCode text) >>= fun activity => perform activity >>= concludeExecution := by
  have hconclude : execute code = ensureEngine >>= fun _ => resolve code >>= fun text =>
      request (.runCode text) >>= fun activity => perform activity >>= concludeExecution := by
    unfold execute
    refine congrArg (ensureEngine >>= ·) (funext fun _ => congrArg (resolve code >>= ·) ?_)
    funext text
    refine congrArg (request (.runCode text) >>= ·) (funext fun activity => ?_)
    refine congrArg (perform activity >>= ·) (funext fun result => ?_)
    cases result <;> rfl
  rw [hconclude, bind_assoc]

/-- Code that fails leaves the outputs that it has set. -/
theorem play_execute_error {c : Collaborators} {w w' : World} {code : String} {run after : Run}
    {f : Failure} (h : w.play c ((execute code).from run) = ((.error f, after), w')) :
    (∃ added : List String, added.length ≤ 1
        ∧ w'.workspace = { w.workspace with actionLog := w.workspace.actionLog ++ added })
      ∧ ∃ gained, w'.journal = w.journal ++ gained
        ∧ after = run.setOutputs (gained.flatMap fun e => e.outputs run) := by
  have hlook : (ensureEngine >>= fun _ => resolve code).Looks 1 :=
    .bind (n := 0) .ensureEngine fun _ => .resolve code
  -- up to the resolved code the action only looks
  obtain ⟨hrun, hspares⟩ := hlook c w run
  rw [execute_eq, World.play_from_bind] at h
  generalize w.play c ((ensureEngine >>= fun _ => resolve code).from run) = played
    at h hrun hspares
  obtain ⟨hworkspace, gained, hjournal, hcode⟩ := hspares
  obtain ⟨⟨e | text, between⟩, ready⟩ := played
  · -- no code was run
    cases h
    refine ⟨hworkspace, gained, hjournal, ?_⟩
    rw [outputs_of_no_code hcode]
    exact hrun
  · -- the code is run, and nothing follows it but its own result
    obtain rfl : between = run := hrun
    obtain ⟨last, hplay, ⟨added', hlines', hworkspace'⟩, gained', hjournal', hcode'⟩ :=
      play_perform c (ready.runCode c text) (ready.answer c (.runCode text)).2 between
    obtain rfl : added' = [] := List.eq_nil_of_length_eq_zero (Nat.le_zero.1 hlines')
    change (ready.answer c (.runCode text)).2.play c
      ((perform (ready.runCode c text) >>= _).from between) = _ at h
    rw [play_bind_ok hplay] at h
    cases hresult : (ready.runCode c text).result between with
    | ok v =>
        rw [hresult] at h
        cases h
    | error e =>
        rw [hresult] at h
        cases h
        refine ⟨?_, gained ++ ⟨.runCode text, ready.runCode c text⟩ :: gained', ?_, ?_⟩
        · rw [List.append_nil] at hworkspace'
          rwa [hworkspace']
        · rw [hjournal', World.answer_journal, hjournal]
          simp [World.isJournaled]
          rfl
        · rw [List.flatMap_append, List.flatMap_cons, outputs_of_no_code hcode,
            outputs_of_no_code hcode', List.nil_append, List.append_nil]
          rfl

end RunM

/-! ## Commands and calls that fail -/

/-- The only fault of a call is that there is no command of its name. -/
theorem Command.ofCall_error {name arguments : String} {f : Failure}
    (h : ofCall name arguments = .error f) : f = .command name (.unknown name) := by
  unfold ofCall at h
  dsimp only at h
  split at h <;> cases h
  rfl

namespace World

variable {c : Collaborators} {w w' : World} {run after : Run} {f : Failure}

/-- A failing command leaves the outputs that code has set before it failed. -/
theorem play_dispatch_error {command : Command}
    (h : w.play c ((RunM.dispatch command).from run) = ((.error f, after), w')) :
    (∃ added : List String, added.length ≤ 1
        ∧ w'.workspace = { w.workspace with actionLog := w.workspace.actionLog ++ added })
      ∧ ((∀ code, command ≠ .execute code) → after = run)
      ∧ ∃ gained, w'.journal = w.journal ++ gained
        ∧ after = run.setOutputs (gained.flatMap fun e => e.outputs run) := by
  by_cases hcommand : ∃ code, command = .execute code
  · obtain ⟨code, rfl⟩ := hcommand
    have hexecute : (w.answer c (.trace ⟨.interpreter, 1, "command " ++
        (Command.execute code).shown⟩)).2.play c ((RunM.execute code).from run)
          = ((.error f, after), w') := h
    obtain ⟨hworkspace, hjournal⟩ := RunM.play_execute_error hexecute
    exact ⟨hworkspace, fun hother => absurd rfl (hother code), hjournal⟩
  · rw [not_exists] at hcommand
    have hintact := RunM.dispatch_intact hcommand c w run f
    rw [h] at hintact
    obtain ⟨hrun, hworkspace, gained, hjournal, hcode⟩ := hintact rfl
    refine ⟨hworkspace, fun _ => hrun, gained, hjournal, ?_⟩
    rw [outputs_of_no_code hcode]
    exact hrun

/-- A call of no command says so and does nothing. -/
theorem play_call_error {name arguments : String} (h : Command.ofCall name arguments = .error f) :
    w.play c ((RunM.call name arguments).from run)
      = ((.error (.command name (.unknown name)), run), w) := by
  unfold RunM.call
  rw [RunM.from_bind, RunM.from_lift, h, Command.ofCall_error h]
  rfl

/-- A registration that fails does nothing. -/
theorem play_register_error {agent : Option String}
    (h : w.play c ((RunM.register agent).from run) = ((.error f, after), w')) :
    after = run ∧ w' = w := by
  rw [RunM.register, RunM.from_get_bind] at h
  split at h
  · cases h
  · cases h
    exact ⟨rfl, rfl⟩

end World

/-- A failing command leaves the run and the workspace as they were, but for one line at most in the
    log of actions and the outputs that code has set before it failed; a call of no command and a
    registration that fails leave everything as it was. -/
theorem World.play_error_intact (c : Collaborators) (w : World) (run : Run) :
    (∀ (command : Command) (f : Failure) (after : Run) (w' : World),
        w.play c ((RunM.dispatch command).from run) = ((.error f, after), w') →
          (∃ added : List String, added.length ≤ 1
              ∧ w'.workspace = { w.workspace with actionLog := w.workspace.actionLog ++ added })
            ∧ after.agents = run.agents ∧ after.pending = run.pending
            ∧ ((∀ code, command ≠ .execute code) → after = run)
            ∧ ∃ gained, w'.journal = w.journal ++ gained
              ∧ after = run.setOutputs (gained.flatMap fun e => e.outputs run))
      ∧ (∀ (name arguments : String) (f : Failure), Command.ofCall name arguments = .error f →
        w.play c ((RunM.call name arguments).from run)
          = ((.error (.command name (.unknown name)), run), w))
      ∧ ∀ (agent : Option String) (f : Failure) (after : Run) (w' : World),
        w.play c ((RunM.register agent).from run) = ((.error f, after), w') →
          after = run ∧ w' = w := by
  refine ⟨fun command f after w' h => ?_, fun name arguments f h => play_call_error h,
    fun agent f after w' h => play_register_error h⟩
  obtain ⟨hworkspace, hrun, gained, hjournal, houtputs⟩ := play_dispatch_error h
  obtain ⟨hagents, hpending, -⟩ :=
    run.setOutputs_fields (gained.flatMap fun e => e.outputs run)
  rw [← houtputs] at hagents hpending
  exact ⟨hworkspace, hagents, hpending, hrun, gained, hjournal, houtputs⟩

/-- Collaborators with a sandbox in which all code sets one output and then fails. -/
def Collaborators.halfDone : Collaborators :=
  { Collaborators.replying fun prompt _ => .ok prompt with
    sandbox := some
      { boot := fun _ => {}
        run := fun _ _ => .write "x" (.bool true) fun _ =>
          .finish (.error (.raised "ValueError" (some "no"))) } }

theorem World.play_error_intact_halfDone :
    (∃ w', (initial {} 0).play .halfDone ((RunM.dispatch (.execute "")).from (.start (.str "")))
          = ((.error (.command "execute" (.codeFailed "no")),
            (Run.start (.str "")).setOutputs [("x", .bool true)]), w')
        ∧ (∃ added : List String, added.length ≤ 1 ∧ w'.workspace = { actionLog := [] ++ added })
        ∧ ∃ gained, w'.journal = [] ++ gained
          ∧ (Run.start (.str "")).setOutputs [("x", .bool true)]
            = (Run.start (.str "")).setOutputs
              (gained.flatMap fun e => e.outputs (.start (.str ""))))
      ∧ (initial {} 0).play .halfDone ((RunM.call "dance" "").from (.start (.str "")))
        = ((.error (.command "dance" (.unknown "dance")), .start (.str "")), initial {} 0)
      ∧ ∃ (f : Failure) (after : Run) (w' : World),
        (initial {} 0).play .halfDone ((RunM.register (some "critic")).from (.start (.str "")))
            = ((.error f, after), w')
          ∧ after = .start (.str "") ∧ w' = initial {} 0 := by
  obtain ⟨hdispatch, hcall, hregister⟩ :=
    play_error_intact .halfDone (initial {} 0) (.start (.str ""))
  have hplay : (initial {} 0).play .halfDone
        ((RunM.dispatch (.execute "")).from (.start (.str "")))
      = ((.error (.command "execute" (.codeFailed "no")),
          (Run.start (.str "")).setOutputs [("x", .bool true)]),
        ((initial {} 0).play .halfDone
          ((RunM.dispatch (.execute "")).from (.start (.str "")))).2) := by
    with_unfolding_all rfl
  obtain ⟨hworkspace, -, -, -, houtputs⟩ := hdispatch _ _ _ _ hplay
  refine ⟨⟨_, hplay, hworkspace, houtputs⟩, hcall "dance" "" _ rfl, ?_⟩
  exact ⟨_, _, _, rfl, hregister (some "critic") _ _ _ rfl⟩

end AgentScript
