import AgentScript.Proofs.Run.AgentCalls

set_option autoImplicit false

/-! # Agents and their instructions

An agent is registered with the instruction that was created last, and an instruction serves for one
registration only. Which agent has which instruction can therefore be read off the history of a run:
a text waits if no registration has taken it since it was created (`Waits`), and an agent has the
text that waited when it was last registered (`BelongsTo`). The state of a run agrees with its
history in this (`Agrees`), so a call of an agent hands over the instruction that belongs to the
agent, and is refused if there is none (`runScript_agents`). -/

namespace AgentScript

/-! ## What a deed does to the agents -/

namespace Deed

/-- A deed that creates an instruction: its argument, resolved in the context of that moment. -/
def Creates (d : Deed) (text : String) : Prop :=
  d.outcome = .ok () ∧ ∃ arguments, d.action = .callCommand "createAI" arguments
    ∧ d.before.context.resolve (Script.stripQuotes arguments) = .ok text

/-- A deed that registers an agent. -/
def Registers (d : Deed) (agent : String) : Prop :=
  d.outcome = .ok () ∧ d.action = .register (some agent)

/-- A deed that neither creates an instruction nor registers an agent. -/
def LeavesAgents (d : Deed) : Prop :=
  (∀ text, ¬ d.Creates text) ∧ ∀ agent, ¬ d.Registers agent

/-- The ways in which a deed may affect the agents of a run. -/
inductive Affects (d : Deed) : Prop where
  | creates {text : String} (hd : d.Creates text)
      (hafter : d.after = { d.before with pending := some text })
  | registers {agent text : String} (hd : d.Registers agent)
      (hpending : d.before.pending = some text) (htext : text ≠ "")
      (hafter : d.after =
        { d.before with agents := d.before.agents.put agent text, pending := none })
  | leaves (hd : d.LeavesAgents) (hsame : d.before.SameAgents d.after)

theorem Creates.not_registers {d : Deed} {text agent : String} (h : d.Creates text) :
    ¬ d.Registers agent := by
  obtain ⟨-, arguments, haction, -⟩ := h
  rintro ⟨-, haction'⟩
  cases haction.symm.trans haction'

/-- A deed that fails leaves the agents. -/
theorem leavesAgents_of_error {d : Deed} {f : Failure} (h : d.outcome = .error f) :
    d.LeavesAgents :=
  ⟨fun _ hd => (nomatch h.symm.trans hd.1), fun _ hd => (nomatch h.symm.trans hd.1)⟩

/-- What a deed asks after the step was recorded, and how it ends, is what its action does. -/
theorem CarriesOut.act {d : Deed} {s : Script.Step} (h : d.CarriesOut s) :
    ∃ record rest, d.calls = ⟨.trace record, ()⟩ :: rest
      ∧ ((RunM.act d.action).from d.before).Passes rest (d.outcome, d.after) := by
  obtain ⟨haction, hpass⟩ := h
  obtain ⟨_, rest, hcalls, hpass⟩ := hpass
  rw [haction]
  exact ⟨_, rest, hcalls, hpass⟩

end Deed

/-- What a deed does to the agents of a run. -/
theorem Deed.CarriesOut.affects {d : Deed} {s : Script.Step} (h : d.CarriesOut s) : d.Affects := by
  obtain ⟨record, rest, -, hact⟩ := h.act
  by_cases hcreates : ∃ arguments, d.action = .callCommand "createAI" arguments
  · obtain ⟨arguments, haction⟩ := hcreates
    rw [haction] at hact
    obtain ⟨text, hresolve, hr⟩ | ⟨f, hr⟩ := RunM.createAI_passes hact
    · obtain ⟨houtcome, hafter⟩ := Prod.mk.inj hr
      exact .creates ⟨houtcome, arguments, haction, hresolve⟩ hafter
    · obtain ⟨houtcome, hafter⟩ := Prod.mk.inj hr
      exact .leaves (leavesAgents_of_error houtcome) (hafter ▸ .refl d.before)
  by_cases hregisters : ∃ agent, d.action = .register agent
  · obtain ⟨agent, haction⟩ := hregisters
    rw [haction] at hact
    obtain ⟨name, text, rfl, hpending, htext, hr⟩ | ⟨f, hr⟩ := RunM.register_passes hact
    · obtain ⟨houtcome, hafter⟩ := Prod.mk.inj hr
      exact .registers ⟨houtcome, haction⟩ hpending htext hafter
    · obtain ⟨houtcome, hafter⟩ := Prod.mk.inj hr
      exact .leaves (leavesAgents_of_error houtcome) (hafter ▸ .refl d.before)
  · rw [not_exists] at hcreates hregisters
    have hwithin := Script.Action.within_leavesAgents hcreates hregisters
    have hkeeps := RunM.act_keeps covers_leavesAgents d.action hwithin d.before
    have hsame : d.before.SameAgents d.after := (hkeeps.passes hact).1.moves
    refine .leaves ⟨?_, fun agent hd => hregisters _ hd.2⟩ hsame
    rintro text ⟨-, arguments, haction, -⟩
    exact hcreates arguments haction

/-! ## Instructions in a history -/

/-- A text waits to be taken: it is what was created last, and no registration has followed. -/
def Waits (history : List Deed) (text : String) : Prop :=
  ∃ before creation since, history = before ++ creation :: since ∧ creation.Creates text
    ∧ ∀ d ∈ since, d.LeavesAgents

/-- An instruction belongs to an agent: it is the text that waited when the agent was last
    registered. -/
def BelongsTo (history : List Deed) (agent text : String) : Prop :=
  ∃ before registration since, history = before ++ registration :: since
    ∧ registration.Registers agent ∧ Waits before text ∧ ∀ d ∈ since, ¬ d.Registers agent

section

variable {history : List Deed} {d : Deed} {agent text : String}

theorem waits_snoc_creation (hd : d.Creates text) : Waits (history ++ [d]) text :=
  ⟨history, d, [], rfl, hd, List.forall_mem_nil _⟩

theorem Waits.snoc (h : Waits history text) (hd : d.LeavesAgents) :
    Waits (history ++ [d]) text := by
  obtain ⟨before, creation, since, rfl, hcreation, hsince⟩ := h
  refine ⟨before, creation, since ++ [d], by simp, hcreation, ?_⟩
  exact List.forall_mem_append.2 ⟨hsince, List.forall_mem_singleton.2 hd⟩

theorem belongsTo_snoc_registration (h : Waits history text) (hd : d.Registers agent) :
    BelongsTo (history ++ [d]) agent text :=
  ⟨history, d, [], rfl, hd, h, List.forall_mem_nil _⟩

theorem BelongsTo.snoc (h : BelongsTo history agent text) (hd : ¬ d.Registers agent) :
    BelongsTo (history ++ [d]) agent text := by
  obtain ⟨before, registration, since, rfl, hregistration, hwaits, hsince⟩ := h
  refine ⟨before, registration, since ++ [d], by simp, hregistration, hwaits, ?_⟩
  exact List.forall_mem_append.2 ⟨hsince, List.forall_mem_singleton.2 hd⟩

theorem BelongsTo.exists_registers (h : BelongsTo history agent text) :
    ∃ d ∈ history, d.Registers agent := by
  obtain ⟨before, registration, since, rfl, hregistration, -, -⟩ := h
  exact ⟨registration, by simp, hregistration⟩

/-- A text that waits after a registration was created after it. -/
theorem Waits.since_registration {before since : List Deed}
    (h : Waits (before ++ d :: since) text) (hd : d.Registers agent) : Waits since text := by
  obtain ⟨before', creation, since', hsplit, hcreation, hsince⟩ := h
  obtain ⟨more, rfl, hmore⟩ | ⟨more, rfl, hmore⟩ := List.append_eq_append_iff.1 hsplit
  · cases more with
    | nil =>
        obtain ⟨rfl, -⟩ := List.cons.inj hmore
        exact absurd hd hcreation.not_registers
    | cons e more =>
        obtain ⟨rfl, rfl⟩ := List.cons.inj hmore
        exact ⟨more, creation, since', rfl, hcreation, hsince⟩
  · -- no registration has followed the creation
    cases more with
    | nil =>
        obtain ⟨rfl, -⟩ := List.cons.inj hmore
        exact absurd hd hcreation.not_registers
    | cons e more =>
        obtain ⟨rfl, rfl⟩ := List.cons.inj hmore
        exact absurd hd ((hsince d (by simp)).2 agent)

end

/-- The agents of a run are what its history makes them. -/
structure Agrees (history : List Deed) (run : Run) : Prop where
  pending : ∀ text, run.pending = some text → Waits history text
  known : ∀ agent text, run.agents.get? agent = some text →
    text ≠ "" ∧ BelongsTo history agent text
  unknown : ∀ agent, run.agents.get? agent = none → ∀ d ∈ history, ¬ d.Registers agent

theorem agrees_start (prompt : Value) : Agrees [] (.start prompt) where
  pending _ h := nomatch h
  known _ _ h := nomatch h
  unknown _ _ := List.forall_mem_nil _

theorem Agrees.congr {history : List Deed} {run after : Run} (h : Agrees history run)
    (hsame : run.SameAgents after) : Agrees history after where
  pending := hsame.pending ▸ h.pending
  known := hsame.agents ▸ h.known
  unknown := hsame.agents ▸ h.unknown

/-- Every deed keeps the agents of a run what its history makes them. -/
theorem Agrees.snoc {history : List Deed} {d : Deed} (h : Agrees history d.before)
    (hd : d.Affects) : Agrees (history ++ [d]) d.after := by
  have hother {agent : String} (hknown : ∀ e ∈ history, ¬ e.Registers agent)
      (hlast : ¬ d.Registers agent) : ∀ e ∈ history ++ [d], ¬ e.Registers agent :=
    List.forall_mem_append.2 ⟨hknown, List.forall_mem_singleton.2 hlast⟩
  cases hd with
  | @creates text hd hafter =>
      rw [hafter]
      refine ⟨?_, fun agent instruction hagent => ?_, fun agent hagent => ?_⟩
      · rintro _ ⟨⟩
        exact waits_snoc_creation hd
      · exact (h.known agent instruction hagent).imp_right (·.snoc hd.not_registers)
      · exact hother (h.unknown agent hagent) hd.not_registers
  | @registers name text hd hpending htext hafter =>
      -- the agent takes the text that waits, and the others keep theirs
      have hwaits := h.pending text hpending
      rw [hafter]
      refine ⟨fun _ hnone => (nomatch hnone), fun agent instruction hagent => ?_,
        fun agent hagent => ?_⟩
      · by_cases hname : agent = name
        · subst hname
          obtain rfl := Option.some.inj ((Bindings.get?_put_self _ _ _).symm.trans hagent)
          exact ⟨htext, belongsTo_snoc_registration hwaits hd⟩
        · rw [Bindings.get?_put_of_ne _ hname] at hagent
          refine (h.known agent instruction hagent).imp_right (·.snoc fun hagent' => ?_)
          exact hname (by cases hd.2.symm.trans hagent'.2; rfl)
      · by_cases hname : agent = name
        · subst hname
          exact nomatch (Bindings.get?_put_self _ _ _).symm.trans hagent
        · rw [Bindings.get?_put_of_ne _ hname] at hagent
          refine hother (h.unknown agent hagent) fun hagent' => ?_
          exact hname (by cases hd.2.symm.trans hagent'.2; rfl)
  | leaves hd hsame =>
      have hbefore : Agrees (history ++ [d]) d.before := by
        refine ⟨fun text htext => ?_, fun agent text hagent => ?_, fun agent hagent => ?_⟩
        · exact (h.pending text htext).snoc hd
        · exact (h.known agent text hagent).imp_right (·.snoc (hd.2 agent))
        · exact hother (h.unknown agent hagent) (hd.2 agent)
      exact hbefore.congr hsame

/-- Before every deed of a history the agents of the run are what the earlier deeds make them. -/
theorem Script.Unfolds.agrees {source : String} {prompt : Value} {history : List Deed}
    (h : Unfolds source prompt history) {earlier later : List Deed} {d : Deed}
    (hsplit : history = earlier ++ d :: later) :
    Agrees earlier d.before ∧ ∃ s, d.CarriesOut s := by
  have hdeed (past : List Deed) (d : Deed) (s : Step) (hd : d.CarriesOut s)
      (hpast : Agrees past d.before) : Agrees (past ++ [d]) d.after :=
    hpast.snoc hd.affects
  refine h.invariant (agrees_start prompt) hdeed (fun past run calls r hanswer hpast => ?_) hsplit
  exact hpast.congr ((RunM.produceAnswer_between _ run).passes hanswer).1.moves

/-! ## Calls of agents in a history -/

/-- A call of an agent that is refused because the agent is not known, and not because the one who
    was asked failed in that way. -/
def Deed.Refuses (d : Deed) (agent : String) : Prop :=
  d.outcome = .error (RunM.undefinedAgent agent) ∧ ∀ prompt instruction,
    (⟨.generate prompt instruction, .error (RunM.undefinedAgent agent)⟩ : Exchange) ∉ d.calls

/-- A deed other than the call of an agent asks none. -/
theorem Deed.CarriesOut.isCall {d : Deed} {s : Script.Step} (h : d.CarriesOut s) {e : Exchange}
    (he : e ∈ d.calls) (hinstructed : e.request.isInstructed) :
    ∃ agent arguments, d.action = .callAgent agent arguments := by
  obtain ⟨record, rest, hcalls, hact⟩ := h.act
  by_cases hcall : ∃ agent arguments, d.action = .callAgent agent arguments
  · exact hcall
  have hwithin := Script.Action.within_asksNoAgent fun agent arguments haction =>
    hcall ⟨agent, arguments, haction⟩
  have hasks := ((RunM.act_keeps covers_asksNoAgent d.action hwithin d.before).passes hact).2
  have hno : e.request.isInstructed = false := by
    rw [hcalls] at he
    rcases List.mem_cons.1 he with rfl | he
    · rfl
    · exact hasks e he
  cases hinstructed.symm.trans hno

section

variable {d : Deed} {s : Script.Step} {earlier : List Deed} {agent arguments : String}
  (h : d.CarriesOut s) (haction : d.action = .callAgent agent arguments)
  (hagrees : Agrees earlier d.before)

include h haction

/-- A call of an agent whose prompt does not resolve asks nobody. -/
theorem Deed.CarriesOut.callAgent_unresolved {f : Failure}
    (hprompt : d.before.context.resolve (Script.stripQuotes arguments) = .error f) :
    ∀ e ∈ d.calls, e.generation? = none := by
  obtain ⟨record, rest, hcalls, hact⟩ := h.act
  rw [haction] at hact
  rw [hcalls]
  exact List.forall_mem_cons.2 ⟨rfl, RunM.runAgent_passes_unresolved hact hprompt⟩

include hagrees

/-- A call of an agent that is not known yet asks nobody and is refused. -/
theorem Deed.CarriesOut.callAgent_unknown {text : String}
    (hprompt : d.before.context.resolve (Script.stripQuotes arguments) = .ok text)
    (hagent : Command.nonempty? (d.before.agents.get? agent) = none) :
    (∀ e ∈ d.calls, e.generation? = none) ∧ d.Refuses agent
      ∧ ∀ e ∈ earlier, ¬ e.Registers agent := by
  obtain ⟨record, rest, hcalls, hact⟩ := h.act
  rw [haction] at hact
  obtain ⟨houtcome, hnone⟩ := RunM.runAgent_passes_undefined hact hprompt hagent
  have hnone' : ∀ e ∈ d.calls, e.generation? = none := by
    rw [hcalls]
    exact List.forall_mem_cons.2 ⟨rfl, hnone⟩
  refine ⟨hnone', ⟨houtcome, fun prompt instruction he => nomatch hnone' _ he⟩, ?_⟩
  cases hget : d.before.agents.get? agent with
  | none => exact hagrees.unknown agent hget
  | some text =>
      -- the text of an agent is not empty
      have htext := (hagrees.known agent text hget).1
      rw [hget, Command.nonempty?_of_ne htext] at hagent
      cases hagent

/-- A call of an agent that is known asks with the instruction that belongs to the agent. -/
theorem Deed.CarriesOut.callAgent_known {text instruction : String}
    (hprompt : d.before.context.resolve (Script.stripQuotes arguments) = .ok text)
    (hagent : Command.nonempty? (d.before.agents.get? agent) = some instruction) :
    (∀ e ∈ d.calls, ∀ g, e.generation? = some g → g = (text, some instruction))
      ∧ ¬ d.Refuses agent ∧ instruction ≠ "" ∧ BelongsTo earlier agent instruction := by
  obtain ⟨record, rest, hcalls, hact⟩ := h.act
  rw [haction] at hact
  obtain ⟨first, second, reply, rfl, hfirst, hsecond, hreply⟩ :=
    RunM.runAgent_passes_defined hact hprompt hagent
  rw [hcalls]
  refine ⟨?_, ?_, hagrees.known agent instruction (Option.filter_eq_some_iff.1 hagent).1⟩
  · intro e he g hg
    simp only [List.mem_cons, List.not_mem_nil, or_false] at he
    obtain rfl | rfl | rfl | rfl := he
    · cases hg
    · cases hfirst.symm.trans hg
    · cases hsecond.symm.trans hg
    · exact (Option.some.inj hg).symm
  · rintro ⟨houtcome, hnever⟩
    obtain rfl := hreply houtcome
    exact hnever text (some instruction) (by simp [hcalls])

/-- The three ways in which a call of an agent goes: its prompt does not resolve, the agent is not
    known, or the agent is asked. -/
theorem Deed.CarriesOut.callAgent :
    ((d.before.context.resolve (Script.stripQuotes arguments)).isOk = false
        ∧ ∀ e ∈ d.calls, e.generation? = none)
      ∨ ((∀ e ∈ d.calls, e.generation? = none) ∧ d.Refuses agent
        ∧ ∀ e ∈ earlier, ¬ e.Registers agent)
      ∨ ∃ text instruction,
        (∀ e ∈ d.calls, ∀ g, e.generation? = some g → g = (text, some instruction))
          ∧ ¬ d.Refuses agent ∧ instruction ≠ "" ∧ BelongsTo earlier agent instruction := by
  cases hprompt : d.before.context.resolve (Script.stripQuotes arguments) with
  | error f => exact .inl ⟨rfl, h.callAgent_unresolved haction hprompt⟩
  | ok text =>
      cases hagent : Command.nonempty? (d.before.agents.get? agent) with
      | none => exact .inr (.inl (h.callAgent_unknown haction hagrees hprompt hagent))
      | some instruction =>
          exact .inr (.inr ⟨text, instruction, h.callAgent_known haction hagrees hprompt hagent⟩)

end

/-! ## The agents of a script -/

/-- Which instructions the agents of a run are asked with. -/
structure InstructsAgents (history : List Deed) (calls : List Exchange) : Prop where
  /-- Only the calls of agents ask them. -/
  asked : ∀ e ∈ calls, e.request.isInstructed →
    ∃ d ∈ history, (∃ agent arguments, d.action = .callAgent agent arguments) ∧ e ∈ d.calls
  /-- A registration takes an instruction that waits. -/
  taken : ∀ earlier d later agent, history = earlier ++ d :: later → d.Registers agent →
    ∃ text, text ≠ "" ∧ Waits earlier text
  /-- An instruction is taken once: two registrations have another creation between them. -/
  once : ∀ earlier d between e later agent other,
    history = earlier ++ d :: (between ++ e :: later) → d.Registers agent → e.Registers other →
      ∃ text, Waits between text
  /-- An agent is asked with the instruction that belongs to it. -/
  instructed : ∀ earlier d later agent arguments, history = earlier ++ d :: later →
    d.action = .callAgent agent arguments →
      ∀ e ∈ d.calls, ∀ prompt instruction, e.generation? = some (prompt, instruction) →
        ∃ text, instruction = some text ∧ text ≠ "" ∧ BelongsTo earlier agent text
  /-- A call whose prompt resolves is refused just in case the agent has not been registered. -/
  refused : ∀ earlier d later agent arguments, history = earlier ++ d :: later →
    d.action = .callAgent agent arguments →
      (d.before.context.resolve (Script.stripQuotes arguments)).isOk →
        (d.Refuses agent ↔ ∀ e ∈ earlier, ¬ e.Registers agent)
  /-- A call that is refused asks nobody. -/
  unasked : ∀ earlier d later agent arguments, history = earlier ++ d :: later →
    d.action = .callAgent agent arguments → d.Refuses agent → ∀ e ∈ d.calls, e.generation? = none

/-- A registration takes an instruction that waits. -/
theorem Script.Unfolds.taken {source : String} {prompt : Value} {history : List Deed}
    (h : Unfolds source prompt history) {earlier later : List Deed} {d : Deed} {agent : String}
    (hsplit : history = earlier ++ d :: later) (hd : d.Registers agent) :
    ∃ text, text ≠ "" ∧ Waits earlier text := by
  obtain ⟨hagrees, s, hcarries⟩ := h.agrees hsplit
  cases hcarries.affects with
  | creates hcreates => exact absurd hd hcreates.not_registers
  | @registers _ text _ hpending htext => exact ⟨text, htext, hagrees.pending text hpending⟩
  | leaves hleaves => exact absurd hd (hleaves.2 agent)

/-- In every run of a script agents are asked with the instructions that belong to them. -/
theorem runScript_agents {source : String} {prompt : Value} {calls : List Exchange}
    {r : Except Failure Unit × Run} (h : (runScript source prompt).Passes calls r) :
    ∃ history, Script.Unfolds source prompt history ∧ Script.Accounts history calls
      ∧ InstructsAgents history calls := by
  obtain ⟨history, hunfolds, haccounts⟩ := runScript_unfolds h
  refine ⟨history, hunfolds, haccounts, ⟨?asked, ?taken, ?once, ?instructed, ?refused, ?unasked⟩⟩
  case asked =>
    intro e he hinstructed
    rcases haccounts.others e he with ⟨d, hd, hcall⟩ | hbetween
    · obtain ⟨earlier, later, hsplit⟩ := List.append_of_mem hd
      obtain ⟨-, s, hcarries⟩ := hunfolds.agrees hsplit
      exact ⟨d, hd, hcarries.isCall hcall hinstructed, hcall⟩
    · -- the prompt block is sent without an instruction
      obtain ⟨q, reply⟩ := e
      cases q with
      | generate prompt instruction =>
          cases instruction with
          | none => cases hinstructed
          | some text => cases hbetween
      | _ => cases hinstructed
  case taken => exact fun earlier d later agent hsplit hd => hunfolds.taken hsplit hd
  case once =>
    intro earlier d between e later agent other hsplit hd he
    have hsplit' : history = (earlier ++ d :: between) ++ e :: later := by simp [hsplit]
    obtain ⟨text, -, hwaits⟩ := hunfolds.taken hsplit' he
    exact ⟨text, hwaits.since_registration hd⟩
  case instructed =>
    intro earlier d later agent arguments hsplit haction e he prompt instruction hasked
    obtain ⟨hagrees, s, hcarries⟩ := hunfolds.agrees hsplit
    obtain ⟨-, hnone⟩ | ⟨hnone, -⟩ | ⟨text, known, hgeneration, -, hknown⟩ :=
      hcarries.callAgent haction hagrees
    · cases (hnone e he).symm.trans hasked
    · cases (hnone e he).symm.trans hasked
    · cases hgeneration e he _ hasked
      exact ⟨known, rfl, hknown⟩
  case refused =>
    intro earlier d later agent arguments hsplit haction hprompt
    obtain ⟨hagrees, s, hcarries⟩ := hunfolds.agrees hsplit
    obtain ⟨hunresolved, -⟩ | ⟨-, hrefuses, hunknown⟩ | ⟨_, _, -, hrefuses, -, hbelongs⟩ :=
      hcarries.callAgent haction hagrees
    · cases hprompt.symm.trans hunresolved
    · exact ⟨fun _ => hunknown, fun _ => hrefuses⟩
    · obtain ⟨e, he, hregisters⟩ := hbelongs.exists_registers
      exact ⟨fun h => absurd h hrefuses, fun h => absurd hregisters (h e he)⟩
  case unasked =>
    intro earlier d later agent arguments hsplit haction hrefuses
    obtain ⟨hagrees, s, hcarries⟩ := hunfolds.agrees hsplit
    obtain ⟨-, hnone⟩ | ⟨hnone, -⟩ | ⟨_, _, -, hnot, -⟩ := hcarries.callAgent haction hagrees
    · exact hnone
    · exact hnone
    · exact absurd hrefuses hnot

/-- A script that creates an instruction from its prompt and calls an agent registered with it. -/
def criticScript : String :=
  "start beforePrompt\ncreateAI(\"Mind [prompt]\")\nsetID as \"critic\"\n" ++
    "runAI as critic(\"Go\")\nend beforePrompt"

theorem runScript_agents_critic :
    ∃ calls r, (runScript criticScript (.str "cats")).Passes calls r
      ∧ (calls.filter fun e => World.isJournaled e.request).filterMap Exchange.generation?
        = [("Go", some "Mind cats")]
      ∧ ∃ history, Script.Unfolds criticScript (.str "cats") history
        ∧ Script.Accounts history calls ∧ InstructsAgents history calls := by
  obtain ⟨calls, hpass, hjournal⟩ := World.play_passes
    (.replying fun _ _ => .ok "no") (.initial {} 0) (runScript criticScript (.str "cats"))
  refine ⟨calls, _, hpass, ?_, runScript_agents hpass⟩
  rw [World.initial, List.nil_append] at hjournal
  rw [← hjournal]
  decide +kernel

end AgentScript
