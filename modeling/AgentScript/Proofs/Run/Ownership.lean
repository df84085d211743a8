import AgentScript.Proofs.Bindings
import AgentScript.Proofs.Run.Code
import AgentScript.Proofs.Script.Composition

set_option autoImplicit false

/-! # What commands own

Every command owns some parts of the run and of the workspace, and leaves the others as they are
(`World.play_dispatch_content`). Code may bind names of the run, but only those that it sets as
outputs, and what it returns is the last result in the end (`Command.WritesOwn`). A block that runs
without error therefore keeps what a name stands for, unless a step keeps something under it, code
sets it, or it is the answer (`Script.CarriedOut.get?_eq`). -/

namespace AgentScript

/-! ## The parts of a run and of its workspace -/

/-- The parts of a run and of its workspace. -/
inductive Part where
  | agents
  | pending
  | lastResult
  | context
  | notes
  /-- The plan as a whole, the status of each step included. -/
  | plan
  /-- What the steps of the plan say. -/
  | planTexts
  | files
  | tracks
  | messages

/-- What a part may contain. -/
def Part.Content : Part → Type
  | .agents => Bindings String
  | .pending => Option String
  | .lastResult => Value
  | .context => Context
  | .notes => List Note
  | .plan => List PlanStep
  | .planTexts => List (String × String)
  | .files => List UserFile
  | .tracks => List String
  | .messages => List ChatMessage

/-- What a part contains. -/
def Part.content (run : Run) (w : Workspace) : (part : Part) → part.Content
  | .agents => run.agents
  | .pending => run.pending
  | .lastResult => run.lastResult
  | .context => run.context
  | .notes => w.notes
  | .plan => w.plan
  | .planTexts => w.plan.map fun s => (s.title, s.description)
  | .files => w.files
  | .tracks => w.playedTracks
  | .messages => w.messages

/-- The parts that a command may write. No command writes the agents, the messages or what the steps
    of the plan say. -/
def Command.owns : Command → List Part
  | .createNote _ _ | .updateNote _ _ | .deleteNote _ => [.notes]
  | .updatePlan _ _ => [.plan]
  | .changeMusic _ => [.tracks]
  | .createAI _ => [.pending]
  | .getNote _ | .runAI _ | .runAgent _ _ | .getFile _ => [.lastResult]
  | .saveFile _ _ | .deleteFile _ => [.files, .lastResult]
  | .execute _ => [.context, .lastResult]
  | .log _ | .blank => []

/-- The parts that a request writes. -/
def Request.writes : Request → List Part
  | .addNote _ _ | .updateNote _ _ | .deleteNote _ => [.notes]
  | .updatePlan _ _ => [.plan]
  | .addFile _ | .removeFiles _ => [.files]
  | .playMusic _ => [.tracks]
  | .addMessage _ => [.messages]
  | _ => []

/-! ## Parts that are left alone -/

theorem Workspace.updatePlan_texts (w : Workspace) (task status : String) :
    (w.updatePlan task status).2.plan.map (fun s => (s.title, s.description))
      = w.plan.map fun s => (s.title, s.description) := by
  change (changeFirst (matchesTask task) (fun s => { s with status := status }) w.plan).map _ = _
  induction w.plan with
  | nil => rfl
  | cons s rest ih =>
      rw [changeFirst]
      split
      · rfl
      · rw [List.map_cons, List.map_cons, ih]

namespace World

variable {α : Type} (c : Collaborators) {part : Part}

/-- An answer leaves every part alone that the request does not write. -/
theorem answer_content (w : World) (run : Run) {q : Request} (h : part ∉ q.writes) :
    part.content run (w.answer c q).2.workspace = part.content run w.workspace := by
  cases q with
  | addNote | updateNote | deleteNote | addFile | removeFiles | playMusic | addMessage =>
      cases part <;> first | rfl | exact absurd List.mem_cons_self h
  | updatePlan task status =>
      cases part with
      | planTexts => exact w.workspace.updatePlan_texts task status
      | plan => exact absurd List.mem_cons_self h
      | _ => rfl
  | _ => rfl

theorem play_content (w : World) (run : Run) {ends : α → Prop} {d : Dialogue α}
    (h : d.Keeps (fun _ => True) (fun q => part ∉ q.writes) ends) :
    part.content run (w.play c d).2.workspace = part.content run w.workspace := by
  induction d generalizing w with
  | done a => rfl
  | ask q next ih =>
      obtain ⟨hq, hnext⟩ := h
      exact (ih _ (w.answer c q).2 (hnext _ (q.failsIn_all _))).trans (w.answer_content c run hq)

end World

/-- What leaves a part alone. -/
def sparing (part : Part) : Footprint :=
  ⟨fun q => part ∉ q.writes, fun run after => ∀ w, part.content after w = part.content run w⟩

theorem covers_sparing (part : Part) : (sparing part).Covers fun _ => True where
  own _ _ := trivial
  trace _ := List.not_mem_nil
  refl _ _ := rfl
  trans h h' w := (h' w).trans (h w)

/-- A command puts requests to write only what it owns. -/
theorem Command.owns_of_mayAsk {c : Command} {q : Request} (hq : c.mayAsk q) {part : Part}
    (h : part ∈ q.writes) : part ∈ c.owns := by
  cases q with
  | addNote | updateNote | deleteNote | updatePlan | addFile | removeFiles | playMusic
  | addMessage =>
      obtain rfl := List.mem_singleton.1 h
      cases c <;> first | exact List.mem_cons_self | cases hq
  | _ => cases h

theorem Command.within_sparing {c : Command} {part : Part} (h : part ∉ c.owns) :
    c.footprint.Within (sparing part) := by
  refine ⟨fun q hq hwrites => h (owns_of_mayAsk hq hwrites), fun run after hmoves w => ?_⟩
  cases c with
  | execute code =>
      obtain ⟨context, v, rfl⟩ := hmoves
      cases part with
      | context => exact absurd List.mem_cons_self h
      | lastResult => exact absurd (List.mem_cons_of_mem _ List.mem_cons_self) h
      | _ => rfl
  | createAI instruction =>
      obtain ⟨text, rfl⟩ := hmoves
      cases part with
      | pending => exact absurd List.mem_cons_self h
      | _ => rfl
  | getNote | runAI | runAgent | getFile | saveFile | deleteFile =>
      obtain ⟨v, rfl⟩ := hmoves
      cases part with
      | lastResult => exact absurd (by simp [owns]) h
      | _ => rfl
  | _ =>
      obtain rfl := hmoves
      rfl

/-- A command leaves every part alone that it does not own, however it ends. -/
theorem World.play_dispatch_content (c : Collaborators) (w : World) (run : Run) {command : Command}
    {part : Part} (h : part ∉ command.owns) :
    part.content (w.play c ((RunM.dispatch command).from run)).1.2
        (w.play c ((RunM.dispatch command).from run)).2.workspace
      = part.content run w.workspace := by
  have hkeeps := RunM.dispatch_keeps (covers_sparing part) command (Command.within_sparing h) run
  rw [w.play_content c _ hkeeps]
  obtain ⟨calls, hpass, -⟩ := w.play_passes c ((RunM.dispatch command).from run)
  exact (hkeeps.passes hpass).1.moves w.workspace

/-! ## The outputs of code -/

/-- After some outputs a name stands for the last value that it was set to, and for what it stood
    for before if it was not set. -/
theorem Run.setOutputs_get? (run : Run) (outputs : List (String × Value)) (name : String) :
    (run.setOutputs outputs).context.get? name
      = (Bindings.lookupIn name outputs.reverse).or (run.context.get? name) := by
  induction outputs generalizing run with
  | nil => rfl
  | cons output rest ih =>
      obtain ⟨key, v⟩ := output
      have hset : (run.setOutput key v).context.get? name
          = (Bindings.lookupIn name [(key, v)]).or (run.context.get? name) := by
        by_cases hname : key = name
        · subst hname
          rw [Bindings.lookupIn, if_pos rfl]
          exact Bindings.get?_put_self _ key v
        · rw [Bindings.lookupIn, if_neg hname]
          exact Bindings.get?_put_of_ne _ (Ne.symm hname) v
      calc (run.setOutputs ((key, v) :: rest)).context.get? name
          = (Bindings.lookupIn name rest.reverse).or ((run.setOutput key v).context.get? name) :=
            ih (run.setOutput key v)
        _ = _ := by
            rw [hset, List.reverse_cons, Bindings.lookupIn_append, Option.or_assoc]

theorem Run.executed_context (run : Run) (activity : Activity) :
    (run.executed activity).2.context = (run.setOutputs (activity.outputs run)).context := by
  unfold Run.executed
  cases activity.result run <;> rfl

/-- An execution succeeds if its code returns something, and this is the last result then, whatever
    outputs were set. -/
theorem Run.executed_ok {run after : Run} {activity : Activity}
    (h : (.ok (), after) = run.executed activity) : activity.result run = .ok after.lastResult := by
  unfold Run.executed at h
  cases hresult : activity.result run with
  | ok v =>
      rw [hresult] at h
      cases h
      rfl
  | error f =>
      rw [hresult] at h
      cases h

/-! ## Commands -/

/-- What a command that succeeds does to a run and to the world. -/
structure Command.WritesOwn (command : Command) (run after : Run) (w w' : World) : Prop where
  /-- It leaves every part alone that it does not own. -/
  others : ∀ part, part ∉ command.owns →
    part.content after w'.workspace = part.content run w.workspace
  /-- Code runs only in an execution, and what it returns is the last result in the end. A name
      stands for the last value that code has set it to, or else for what it stood for before. -/
  outputs : ∃ gained, w'.journal = w.journal ++ gained
    ∧ ((∀ code, command ≠ .execute code) → ∀ e ∈ gained, e.code? = none)
    ∧ (∀ code, command = .execute code →
      ∃ activity, RunsOnce gained activity ∧ activity.result run = .ok after.lastResult)
    ∧ ∀ name, after.context.get? name
      = (Bindings.lookupIn name (gained.flatMap fun e => e.outputs run).reverse).or
        (run.context.get? name)

/-- A passage through an execution that succeeds runs code once. -/
theorem RunM.dispatch_execute_passes {code : String} {run after : Run} {calls : List Exchange}
    (h : ((dispatch (.execute code)).from run).Passes calls (.ok (), after)) :
    ∃ activity, RunsOnce calls activity ∧ (.ok (), after) = run.executed activity := by
  obtain ⟨_, rest, rfl, hexecute⟩ := h
  obtain ⟨-, f, hfails⟩ | ⟨activity, honce, hr⟩ := execute_passes hexecute
  · cases hfails
  · exact ⟨activity, honce.after (List.forall_mem_singleton.2 rfl), hr⟩

theorem World.play_dispatch_writesOwn {c : Collaborators} {w w' : World} {run after : Run}
    {command : Command}
    (h : w.play c ((RunM.dispatch command).from run) = ((.ok (), after), w')) :
    command.WritesOwn run after w w' := by
  obtain ⟨calls, hpass, hjournal⟩ := w.play_passes c ((RunM.dispatch command).from run)
  have hothers := fun part (hpart : part ∉ command.owns) =>
    w.play_dispatch_content c run hpart
  rw [h] at hpass hjournal hothers
  refine ⟨hothers, _, hjournal, fun hcommand => ?_, ?_, fun name => ?_⟩
  · intro e he
    have hwithin := Command.within_sameNames hcommand fun _ => True
    have hnone := (RunM.dispatch_keeps (covers_sameNames _) command hwithin).runs_no_code hpass
    exact hnone.2 e (List.mem_filter.1 he).1
  · rintro code rfl
    obtain ⟨activity, honce, hr⟩ := RunM.dispatch_execute_passes hpass
    exact ⟨activity, honce.journaled, Run.executed_ok hr⟩
  · obtain ⟨hnone, hnames⟩ | ⟨activity, honce, hr⟩ :=
      RunM.dispatch_codeSettles hpass fun _ => True
    · rw [outputs_of_no_code fun e he => hnone e (List.mem_filter.1 he).1]
      exact hnames name trivial
    · rw [honce.journaled.outputs, ← Run.setOutputs_get?, ← Run.executed_context, ← hr]

/-! ## Blocks -/

/-- The outputs that code has set in a deed. -/
def Deed.outputs (d : Deed) : List (String × Value) :=
  d.calls.flatMap fun e => e.outputs d.before

/-- A deed changes what a name stands for only if its step binds the name or code sets it. -/
theorem Deed.CarriesOut.get?_eq {d : Deed} {s : Script.Step} (h : d.CarriesOut s) {name : String}
    (hbinds : ¬ s.action.Binds name) (houtputs : name ∉ d.outputs.map Prod.fst) :
    d.after.context.get? name = d.before.context.get? name := by
  obtain ⟨-, hnames⟩ | ⟨activity, honce, hr⟩ := h.code
  · exact hnames name hbinds
  · have hafter : d.after = (d.before.executed activity).2 := congrArg Prod.snd hr
    have hunset : name ∉ (activity.outputs d.before).reverse.map Prod.fst := by
      rw [Deed.outputs, honce.outputs] at houtputs
      simpa using houtputs
    rw [hafter, Run.executed_context, Run.setOutputs_get?, Bindings.lookupIn_eq_none hunset,
      Option.none_or]

namespace Script

/-- What neither the steps nor code bind stands for the same after the steps. -/
theorem CarriedOut.get?_eq {steps : List Step} {run : Run} {deeds : List Deed}
    {r : Except Failure Unit × Run} (h : CarriedOut steps run deeds r) {name : String}
    (hbinds : ∀ s ∈ steps, ¬ s.action.Binds name)
    (houtputs : ∀ d ∈ deeds, name ∉ d.outputs.map Prod.fst) :
    r.2.context.get? name = run.context.get? name := by
  induction steps generalizing run deeds with
  | nil =>
      obtain ⟨-, rfl⟩ := h
      rfl
  | cons s rest ih =>
      obtain ⟨hs, hrest⟩ := List.forall_mem_cons.1 hbinds
      obtain ⟨d, more, rfl, hd, rfl, hmore⟩ := h
      obtain ⟨hset, houtputs⟩ := List.forall_mem_cons.1 houtputs
      have hafter := hd.get?_eq hs hset
      split at hmore
      · exact (ih hmore hrest houtputs).trans hafter
      · obtain ⟨-, rfl⟩ := hmore
        exact hafter

/-- The action of a step is that of its statement. -/
theorem exists_ofStatement {n : Nat} {lines : List String} {s : Step} (h : s ∈ stepsFrom n lines) :
    ∃ line rest, s.action = (Action.ofStatement s.statement line rest).1 := by
  fun_induction stepsFrom n lines with
  | case1 => cases h
  | case2 n line rest text hsilent ih => exact ih h
  | case3 n line rest text hspoken statement taken ih =>
      rcases List.mem_cons.1 h with hs | h
      · exact ⟨line, rest, by rw [hs]⟩
      · exact ih h

/-- Only an override binds the answer, and only a statement that keeps the last result under a name
    binds that name. -/
theorem Step.binds_iff {block : String} {s : Step} (h : s ∈ steps block) {name : String}
    (hname : name ≠ "answer") :
    s.action.Binds name ↔ s.statement = some (.getOutput (some name)) := by
  obtain ⟨line, rest, haction⟩ := exists_ofStatement h
  rw [haction]
  cases s.statement with
  | none => simp [Action.ofStatement, Action.Binds]
  | some statement =>
      cases statement with
      | getOutput kept =>
          cases kept <;> simp [Action.ofStatement, Action.Binds, eq_comm]
      | _ => simp [Action.ofStatement, Action.Binds, hname]

end Script

/-- Commands write only what they own: one that succeeds leaves all other parts of the run and of
    the workspace as they were, names that are bound by code stand for what code has set them to
    last, and the last result of an execution is what its code has returned. So a block that runs
    without error keeps what a name stands for, unless the name is the answer, a step keeps something
    under it, or code sets it. -/
theorem World.play_writesOwn (c : Collaborators) (w : World) (run : Run) :
    (∀ (command : Command) (after : Run) (w' : World),
        w.play c ((RunM.dispatch command).from run) = ((.ok (), after), w') →
          command.WritesOwn run after w w')
      ∧ ∀ (block : String) (after : Run) (w' : World),
        w.play c ((RunM.runBlock block).from run) = ((.ok (), after), w') →
          ∃ deeds, Script.CarriedOut (Script.steps block) run deeds (.ok (), after)
            ∧ w'.journal = w.journal
              ++ (deeds.flatMap Deed.calls).filter (fun e => isJournaled e.request)
            ∧ ∀ name, name ≠ "answer" →
              (∀ s ∈ Script.steps block, s.statement ≠ some (.getOutput (some name))) →
              (∀ d ∈ deeds, name ∉ d.outputs.map Prod.fst) →
                after.context.get? name = run.context.get? name := by
  refine ⟨fun command after w' h => play_dispatch_writesOwn h, fun block after w' h => ?_⟩
  obtain ⟨calls, hpass, hjournal⟩ := w.play_passes c ((RunM.runBlock block).from run)
  rw [h] at hpass hjournal
  obtain ⟨deeds, hdeeds, rfl⟩ := RunM.runSteps_passes hpass
  refine ⟨deeds, hdeeds, hjournal, fun name hname hkeeps houtputs => ?_⟩
  exact hdeeds.get?_eq (fun s hs => mt (Script.Step.binds_iff hs hname).1 (hkeeps s hs)) houtputs

/-- Collaborators with a sandbox in which all code sets one output twice and returns something
    else. -/
def Collaborators.settingTwice : Collaborators :=
  { Collaborators.replying fun prompt _ => .ok prompt with
    sandbox := some
      { boot := fun _ => {}
        run := fun _ _ => .write "x" (.bool true) fun _ => .write "x" (.bool false) fun _ =>
          .finish (.ok (.int 3)) } }

/-- A block that runs code and keeps what it returns. -/
def countingBlock : String :=
  "execute(count)\ngetOutput as \"y\""

theorem World.play_writesOwn_settingTwice :
    (∃ (after : Run) (w' : World),
        (initial {} 0).play .settingTwice ((RunM.dispatch (.execute "")).from (.start (.str "p")))
            = ((.ok (), after), w')
          ∧ (Command.execute "").WritesOwn (.start (.str "p")) after (initial {} 0) w')
      ∧ ∃ (after : Run) (w' : World) (deeds : List Deed),
        (initial {} 0).play .settingTwice ((RunM.runBlock countingBlock).from (.start (.str "p")))
            = ((.ok (), after), w')
          ∧ Script.CarriedOut (Script.steps countingBlock) (.start (.str "p")) deeds (.ok (), after)
          ∧ (∀ s ∈ Script.steps countingBlock, s.statement ≠ some (.getOutput (some "prompt")))
          ∧ (∀ d ∈ deeds, "prompt" ∉ d.outputs.map Prod.fst)
          ∧ after.context.get? "prompt" = (Run.start (.str "p")).context.get? "prompt" := by
  obtain ⟨hcommand, hblock⟩ := play_writesOwn .settingTwice (initial {} 0) (.start (.str "p"))
  have hdispatch : ((initial {} 0).play .settingTwice
      ((RunM.dispatch (.execute "")).from (.start (.str "p")))).1.1 = .ok () := by
    with_unfolding_all rfl
  refine ⟨⟨_, _, Prod.ext (Prod.ext hdispatch rfl) rfl,
    hcommand _ _ _ (Prod.ext (Prod.ext hdispatch rfl) rfl)⟩, ?_⟩
  have hended : ((initial {} 0).play .settingTwice
      ((RunM.runBlock countingBlock).from (.start (.str "p")))).1.1.toOption = some () := by
    decide +kernel
  have hsteps : (Script.steps countingBlock).filterMap Script.Step.statement
      |>.all (fun s => s.shown != "GetOutput(var='prompt')") := by
    decide +kernel
  have hunset := play_forall_journal (c := .settingTwice) (w := initial {} 0)
    (P := fun e => ∀ run, "prompt" ∉ (e.outputs run).map Prod.fst) (fun w q run => by
      cases q with
      | runCode code => exact (by decide : "prompt" ∉ ["x", "x"])
      | _ => exact List.not_mem_nil) (List.forall_mem_nil _)
    ((RunM.runBlock countingBlock).from (.start (.str "p")))
  generalize hplay : (initial {} 0).play .settingTwice
    ((RunM.runBlock countingBlock).from (.start (.str "p"))) = played at hended hunset
  obtain ⟨⟨_ | _, after⟩, w'⟩ := played
  · cases hended
  obtain ⟨deeds, hdeeds, hjournal, hkeeps⟩ := hblock _ _ _ hplay
  have hkept : ∀ s ∈ Script.steps countingBlock,
      s.statement ≠ some (.getOutput (some "prompt")) := by
    intro s hs hstatement
    have hshown := List.all_eq_true.1 hsteps _ (List.mem_filterMap.2 ⟨s, hs, hstatement⟩)
    exact absurd hshown (by decide +kernel)
  have houtputs : ∀ d ∈ deeds, "prompt" ∉ d.outputs.map Prod.fst := by
    intro d hd hset
    obtain ⟨output, houtput, hname⟩ := List.mem_map.1 hset
    obtain ⟨e, he, houtput⟩ := List.mem_flatMap.1 houtput
    -- what sets outputs goes into the journal, and all code there sets the same
    cases hcode : e.code? with
    | none =>
        rw [Exchange.outputs_of_code? hcode] at houtput
        cases houtput
    | some code =>
        have hgained : e ∈ w'.journal := by
          rw [hjournal]
          refine List.mem_append_right _ (List.mem_filter.2 ⟨List.mem_flatMap.2 ⟨d, hd, he⟩, ?_⟩)
          obtain ⟨q, r⟩ := e
          cases q with
          | runCode code => rfl
          | _ => cases hcode
        exact hunset e hgained d.before (List.mem_map.2 ⟨output, houtput, hname⟩)
  exact ⟨after, w', deeds, rfl, hdeeds, hkept, houtputs, hkeeps _ (by decide) hkept houtputs⟩

end AgentScript
