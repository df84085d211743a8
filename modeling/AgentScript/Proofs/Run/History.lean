import AgentScript.Proofs.Run.Passage

set_option autoImplicit false

/-! # The history of a run

A passage through a script goes through its steps one after the other. What became of each of them
is a deed, and the deeds in their order are the history of the run (`Script.Unfolds`). Every passage
has a history, and what it asks apart from its deeds serves to announce, to make the answer or to
post it (`runScript_unfolds`). What holds at the start and is kept by every deed and by the making
of the answer holds before every deed (`Script.Unfolds.invariant`). -/

namespace AgentScript

/-- A step as it was carried out: what was to be done, the state it began in, the exchanges it took,
    how it ended, and the state it ended in. -/
structure Deed where
  action : Script.Action
  before : Run
  calls : List Exchange
  outcome : Except Failure Unit
  after : Run

/-- A deed is what became of a step. -/
def Deed.CarriesOut (d : Deed) (s : Script.Step) : Prop :=
  d.action = s.action ∧ ((RunM.step s).from d.before).Passes d.calls (d.outcome, d.after)

namespace Script

/-- Some deeds are what became of steps that were to be carried out one after the other, from a
    state on: one fails and is the last, or none is left. -/
def CarriedOut : List Step → Run → List Deed → Except Failure Unit × Run → Prop
  | [], run, deeds, r => deeds = [] ∧ r = (.ok (), run)
  | s :: rest, run, deeds, r => ∃ d more, deeds = d :: more ∧ d.CarriesOut s ∧ d.before = run
    ∧ match d.outcome with
      | .ok () => CarriedOut rest d.after more r
      | .error f => more = [] ∧ r = (.error f, d.after)

/-- The steps of a block that may be absent. -/
def stepsOf? (block : Option String) : List Step :=
  (Command.nonempty? block).elim [] steps

/-- The history of a run of a script: the deeds of the block before the prompt and, once they have
    succeeded and the answer has been made, those of the block after it. -/
inductive Unfolds (source : String) (prompt : Value) : List Deed → Prop where
  | stopped {first : List Deed} {f : Failure} {run : Run}
      (hfirst : CarriedOut (stepsOf? (Blocks.ofText source).beforePrompt) (.start prompt) first
        (.error f, run)) : Unfolds source prompt first
  | unanswered {first : List Deed} {between run : Run} {calls : List Exchange} {f : Failure}
      (hfirst : CarriedOut (stepsOf? (Blocks.ofText source).beforePrompt) (.start prompt) first
        (.ok (), between))
      (hanswer : ((RunM.produceAnswer (Blocks.ofText source)).from between).Passes calls
        (.error f, run)) : Unfolds source prompt first
  | answered {first second : List Deed} {between after : Run} {calls : List Exchange}
      {r : Except Failure Unit × Run}
      (hfirst : CarriedOut (stepsOf? (Blocks.ofText source).beforePrompt) (.start prompt) first
        (.ok (), between))
      (hanswer : ((RunM.produceAnswer (Blocks.ofText source)).from between).Passes calls
        (.ok (), after))
      (hsecond : CarriedOut (stepsOf? (Blocks.ofText source).afterPrompt) after second r) :
      Unfolds source prompt (first ++ second)

/-! ## Invariants of a history -/

variable {P : List Deed → Run → Prop}

/-- What every deed keeps holds after some steps and before each of their deeds. -/
theorem CarriedOut.invariant
    (hdeed : ∀ past d s, d.CarriesOut s → P past d.before → P (past ++ [d]) d.after)
    {steps : List Step} {run : Run} {deeds : List Deed} {r : Except Failure Unit × Run}
    (h : CarriedOut steps run deeds r) {past : List Deed} (hrun : P past run) :
    P (past ++ deeds) r.2 ∧ ∀ earlier d later, deeds = earlier ++ d :: later →
      P (past ++ earlier) d.before ∧ ∃ s, d.CarriesOut s := by
  induction steps generalizing run deeds past with
  | nil =>
      obtain ⟨rfl, rfl⟩ := h
      exact ⟨by rwa [List.append_nil], fun earlier d later hsplit => by simp at hsplit⟩
  | cons s rest ih =>
      obtain ⟨d, more, rfl, hd, rfl, hmore⟩ := h
      have hafter : P (past ++ [d]) d.after := hdeed past d s hd hrun
      have hrest : P (past ++ [d] ++ more) r.2 ∧ ∀ earlier e later, more = earlier ++ e :: later →
          P (past ++ [d] ++ earlier) e.before ∧ ∃ s, e.CarriesOut s := by
        split at hmore
        · exact ih hmore hafter
        · obtain ⟨rfl, rfl⟩ := hmore
          exact ⟨by rwa [List.append_nil], fun earlier e later hsplit => by simp at hsplit⟩
      rw [List.append_assoc, List.singleton_append] at hrest
      refine ⟨hrest.1, fun earlier e later hsplit => ?_⟩
      cases earlier with
      | nil =>
          obtain ⟨rfl, -⟩ := List.cons.inj hsplit
          exact ⟨by rwa [List.append_nil], s, hd⟩
      | cons d' earlier =>
          obtain ⟨rfl, hlater⟩ := List.cons.inj hsplit
          have he := hrest.2 earlier e later hlater
          rwa [List.append_assoc, List.singleton_append] at he

/-- What holds at the start and is kept by every deed and by the making of the answer holds before
    each deed of a history. -/
theorem Unfolds.invariant {source : String} {prompt : Value} (hstart : P [] (.start prompt))
    (hdeed : ∀ past d s, d.CarriesOut s → P past d.before → P (past ++ [d]) d.after)
    (hanswer : ∀ past run calls r,
      ((RunM.produceAnswer (Blocks.ofText source)).from run).Passes calls r → P past run →
        P past r.2)
    {history : List Deed} (h : Unfolds source prompt history) {earlier later : List Deed} {d : Deed}
    (hsplit : history = earlier ++ d :: later) : P earlier d.before ∧ ∃ s, d.CarriesOut s := by
  cases h with
  | stopped hfirst | unanswered hfirst => exact (hfirst.invariant hdeed hstart).2 _ d later hsplit
  | @answered first second between after calls r hfirst hmade hsecond =>
      obtain ⟨hbetween, hbefore⟩ := hfirst.invariant hdeed hstart
      have hafter := hanswer _ _ _ _ hmade hbetween
      obtain ⟨-, hlast⟩ := hsecond.invariant hdeed hafter
      -- the deed is in the block after the prompt or in the one before it
      obtain ⟨rest, rfl, hd⟩ | ⟨rest, hfirst, hd⟩ := List.append_eq_append_iff.1 hsplit
      · exact hlast rest d later hd
      · cases rest with
        | nil =>
            rw [List.append_nil] at hfirst
            have hd' := hlast [] d later hd.symm
            rwa [List.append_nil, hfirst] at hd'
        | cons d' rest =>
            obtain ⟨rfl, -⟩ := List.cons.inj hd
            exact hbefore earlier d rest hfirst

theorem Unfolds.carriesOut {source : String} {prompt : Value} {history : List Deed}
    (h : Unfolds source prompt history) {d : Deed} (hd : d ∈ history) : ∃ s, d.CarriesOut s := by
  obtain ⟨earlier, later, hsplit⟩ := List.append_of_mem hd
  exact (h.invariant (P := fun _ _ => True) trivial (fun _ _ _ _ _ => trivial)
    (fun _ _ _ _ _ _ => trivial) hsplit).2

end Script

/-! ## Every passage has a history -/

namespace RunM

/-- A passage through some steps is made of what became of each of them. -/
theorem runSteps_passes {steps : List Script.Step} {run : Run} {calls : List Exchange}
    {r : Except Failure Unit × Run} (h : ((runSteps steps).from run).Passes calls r) :
    ∃ deeds, Script.CarriedOut steps run deeds r ∧ calls = deeds.flatMap Deed.calls := by
  induction steps generalizing run calls with
  | nil =>
      obtain ⟨rfl, rfl⟩ := h
      exact ⟨[], ⟨rfl, rfl⟩, rfl⟩
  | cons s rest ih =>
      obtain ⟨f, after, hstep, rfl⟩ | ⟨_, between, first, tail, rfl, hstep, hrest⟩ :=
        from_bind_passes.1 h
      · exact ⟨[⟨s.action, run, calls, .error f, after⟩],
          ⟨_, [], rfl, ⟨rfl, hstep⟩, rfl, rfl, rfl⟩, by simp⟩
      · obtain ⟨more, hmore, rfl⟩ := ih hrest
        exact ⟨⟨s.action, run, first, .ok (), between⟩ :: more,
          ⟨_, more, rfl, ⟨rfl, hstep⟩, rfl, hmore⟩, rfl⟩

end RunM

/-- The requests that a script puts apart from its steps. -/
def Request.isBetweenSteps : Request → Bool
  | .trace _ | .logAction _ | .addMessage _ | .render _ | .generate _ none => true
  | _ => false

/-- A history accounts for some exchanges: those of its deeds are among them in their order, and
    each of the others is one between the steps. -/
structure Script.Accounts (history : List Deed) (calls : List Exchange) : Prop where
  inOrder : (history.flatMap Deed.calls).Sublist calls
  others : ∀ e ∈ calls, (∃ d ∈ history, e ∈ d.calls) ∨ e.request.isBetweenSteps

theorem Script.Accounts.append {history more : List Deed} {calls calls' : List Exchange}
    (h : Accounts history calls) (h' : Accounts more calls') :
    Accounts (history ++ more) (calls ++ calls') := by
  refine ⟨by simpa using h.inOrder.append h'.inOrder, fun e he => ?_⟩
  rcases List.mem_append.1 he with he | he
  · exact (h.others e he).imp_left fun ⟨d, hd, hcall⟩ => ⟨d, List.mem_append_left more hd, hcall⟩
  · exact (h'.others e he).imp_left fun ⟨d, hd, hcall⟩ =>
      ⟨d, List.mem_append_right history hd, hcall⟩

/-- The exchanges of some deeds are accounted for by these deeds. -/
theorem Script.accounts_flatMap (deeds : List Deed) : Accounts deeds (deeds.flatMap Deed.calls) :=
  ⟨.refl _, fun _ he => .inl (List.mem_flatMap.1 he)⟩

/-- Exchanges between the steps need no deed. -/
theorem Script.accounts_nil {calls : List Exchange}
    (h : ∀ e ∈ calls, e.request.isBetweenSteps) : Accounts [] calls :=
  ⟨calls.nil_sublist, fun e he => .inr (h e he)⟩

/-- The agents of a run and the instruction that waits have stayed as they were. -/
structure Run.SameAgents (run after : Run) : Prop where
  agents : after.agents = run.agents
  pending : after.pending = run.pending

theorem Run.SameAgents.refl (run : Run) : run.SameAgents run :=
  ⟨rfl, rfl⟩

theorem Run.SameAgents.trans {run between after : Run} (h : run.SameAgents between)
    (h' : between.SameAgents after) : run.SameAgents after :=
  ⟨h'.agents.trans h.agents, h'.pending.trans h.pending⟩

/-- What a script does apart from its steps leaves its agents alone. -/
def betweenSteps : Footprint :=
  ⟨fun q => q.isBetweenSteps, Run.SameAgents⟩

theorem covers_betweenSteps : betweenSteps.Covers fun _ => True where
  own _ _ := trivial
  trace _ := rfl
  refl := .refl
  trans := .trans

namespace RunM

theorem Keeps.accounts {x : RunM Unit} {gives : Unit → Prop}
    (hx : x.Keeps (fun _ => True) betweenSteps gives) {run : Run} {calls : List Exchange}
    {r : Except Failure Unit × Run} (h : (x.from run).Passes calls r) :
    Script.Accounts [] calls :=
  Script.accounts_nil ((hx run).passes h).2

theorem produceAnswer_between (blocks : Script.Blocks) :
    (produceAnswer blocks).Keeps (fun _ => True) betweenSteps fun _ => True :=
  produceAnswer_keeps covers_betweenSteps (fun _ => rfl) (fun _ => rfl) (fun _ _ => ⟨rfl, rfl⟩)
    blocks

theorem runBlock?_passes {announcement : String} {block : Option String} {run : Run}
    {calls : List Exchange} {r : Except Failure Unit × Run}
    (h : ((runBlock? announcement block).from run).Passes calls r) :
    ∃ deeds, Script.CarriedOut (Script.stepsOf? block) run deeds r
      ∧ Script.Accounts deeds calls := by
  unfold runBlock? at h
  unfold Script.stepsOf?
  cases hblock : Command.nonempty? block with
  | none =>
      rw [hblock] at h
      obtain ⟨rfl, rfl⟩ := h
      exact ⟨[], ⟨rfl, rfl⟩, Script.accounts_flatMap []⟩
  | some text =>
      rw [hblock] at h
      obtain ⟨f, after, ⟨_, _, _, _, hdone⟩, -⟩ | ⟨_, between, first, rest, rfl, htrace, hsteps⟩ :=
        from_bind_passes.1 h
      · cases hdone
      · have haccounts := (trace_keeps covers_betweenSteps 1 announcement).accounts htrace
        obtain ⟨_, _, rfl, rfl, hdone⟩ := htrace
        cases hdone
        obtain ⟨deeds, hdeeds, rfl⟩ := runSteps_passes hsteps
        exact ⟨deeds, hdeeds, haccounts.append (Script.accounts_flatMap deeds)⟩

end RunM

theorem Run.conclude_accounts {r r' : Except Failure Unit × Run} {calls : List Exchange}
    (h : (Run.conclude r).Passes calls r') : Script.Accounts [] calls := by
  refine Script.accounts_nil ?_
  obtain ⟨f | _, run⟩ := r
  · change Dialogue.Passes (if f.isOrdinary then _ else _) _ _ at h
    split at h
    · obtain ⟨_, _, rfl, _, _, rfl, rfl, -⟩ := h
      exact List.forall_mem_cons.2 ⟨rfl, List.forall_mem_singleton.2 rfl⟩
    · obtain ⟨rfl, -⟩ := h
      exact List.forall_mem_nil _
  · obtain ⟨rfl, -⟩ := h
    exact List.forall_mem_nil _

theorem RunM.trace_passes {detail : Nat} {message : String} {run : Run} {calls : List Exchange}
    {r : Except Failure Unit × Run} (h : ((trace detail message).from run).Passes calls r) :
    r = (.ok (), run) := by
  obtain ⟨_, _, rfl, rfl, hdone⟩ := h
  exact hdone

/-- A history in which a step fails ends there, with this failure. -/
def Script.StopsWith (history : List Deed) (r : Except Failure Unit × Run) : Prop :=
  ∀ d ∈ history, ∀ f, d.outcome = .error f → r = (.error f, d.after)

namespace Script

variable {history more : List Deed} {r : Except Failure Unit × Run}

/-- Some steps of which one fails are not gone on with. -/
theorem CarriedOut.stopsWith {steps : List Step} {run : Run}
    (h : CarriedOut steps run history r) : StopsWith history r := by
  induction steps generalizing run history with
  | nil =>
      obtain ⟨rfl, -⟩ := h
      exact List.forall_mem_nil _
  | cons s rest ih =>
      obtain ⟨d, more, rfl, -, -, hmore⟩ := h
      refine List.forall_mem_cons.2 ⟨fun f hf => ?_, ?_⟩
      · rw [hf] at hmore
        exact hmore.2
      · split at hmore
        · exact ih hmore
        · obtain ⟨rfl, -⟩ := hmore
          exact List.forall_mem_nil _

/-- No step has failed if all has gone well by then, however it goes on. -/
theorem StopsWith.of_ok {run : Run} (h : StopsWith history (.ok (), run)) : StopsWith history r :=
  fun d hd f hf => nomatch h d hd f hf

theorem StopsWith.append (h : StopsWith history r) (h' : StopsWith more r) :
    StopsWith (history ++ more) r :=
  List.forall_mem_append.2 ⟨h, h'⟩

end Script

/-- Every passage through a script has a history that accounts for its exchanges and stops the script
    where a step fails. -/
theorem RunM.phases_unfolds {source : String} {prompt : Value} {calls : List Exchange}
    {r : Except Failure Unit × Run} (h : ((phases source).from (.start prompt)).Passes calls r) :
    ∃ history, Script.Unfolds source prompt history ∧ Script.Accounts history calls
      ∧ Script.StopsWith history r := by
  obtain ⟨_, _, htrace, -⟩ | ⟨_, run, traced, calls, rfl, htrace, h⟩ := from_bind_passes.1 h
  · cases trace_passes htrace
  cases trace_passes htrace
  have htraced := (trace_keeps covers_betweenSteps _ _).accounts htrace
  obtain ⟨f, between, hblock, rfl⟩ | ⟨_, between, calls₁, calls, rfl, hblock, h⟩ :=
    from_bind_passes.1 h
  · obtain ⟨first, hfirst, haccounts⟩ := runBlock?_passes hblock
    exact ⟨first, .stopped hfirst, htraced.append haccounts, hfirst.stopsWith⟩
  obtain ⟨first, hfirst, haccounts₁⟩ := runBlock?_passes hblock
  have hwell := hfirst.stopsWith
  obtain ⟨f, after, hanswer, -⟩ | ⟨_, after, calls₂, calls, rfl, hanswer, h⟩ :=
    from_bind_passes.1 h
  · have haccounts₂ := (produceAnswer_between _).accounts hanswer
    refine ⟨first, .unanswered hfirst hanswer, ?_, hwell.of_ok⟩
    simpa using htraced.append (haccounts₁.append haccounts₂)
  have haccounts₂ := (produceAnswer_between _).accounts hanswer
  obtain ⟨f, last, hblock, rfl⟩ | ⟨_, last, calls₃, calls, rfl, hblock, h⟩ := from_bind_passes.1 h
  · obtain ⟨second, hsecond, haccounts₃⟩ := runBlock?_passes hblock
    refine ⟨first ++ second, .answered hfirst hanswer hsecond, ?_, ?_⟩
    · exact htraced.append (haccounts₁.append (haccounts₂.append haccounts₃))
    · exact hwell.of_ok.append hsecond.stopsWith
  obtain ⟨second, hsecond, haccounts₃⟩ := runBlock?_passes hblock
  have haccounts₄ := (postAnswer_keeps covers_betweenSteps (fun _ => rfl) fun _ => rfl).accounts h
  refine ⟨first ++ second, .answered hfirst hanswer hsecond, ?_, ?_⟩
  · simpa using
      htraced.append (haccounts₁.append (haccounts₂.append (haccounts₃.append haccounts₄)))
  · exact hwell.of_ok.append hsecond.stopsWith.of_ok

/-- An ordinary failure of the phases is the error of the run in the end. -/
theorem Run.conclude_passes {f : Failure} (hf : IsOrdinary f) {run : Run} {calls : List Exchange}
    {r : Except Failure Unit × Run} (h : (Run.conclude (.error f, run)).Passes calls r) :
    r = (.ok (), { run with error := some f.notice }) := by
  have hconclude : Run.conclude (.error f, run) = (do return (.ok (), ← run.report f)) :=
    if_pos hf
  rw [hconclude] at h
  obtain ⟨_, _, rfl, _, _, rfl, -, hr⟩ := h
  exact hr

/-- Every passage through a script has a history that accounts for its exchanges, and an ordinary
    failure of a step is the error of the run in the end. -/
theorem runScript_unfolds_stops {source : String} {prompt : Value} {calls : List Exchange}
    {r : Except Failure Unit × Run} (h : (runScript source prompt).Passes calls r) :
    ∃ history, Script.Unfolds source prompt history ∧ Script.Accounts history calls
      ∧ ∀ d ∈ history, ∀ f, d.outcome = .error f → IsOrdinary f →
        r = (.ok (), { d.after with error := some f.notice }) := by
  rw [runScript_eq_conclude] at h
  obtain ⟨ended, calls, last, rfl, hphases, hconclude⟩ := Dialogue.passes_bind.1 h
  obtain ⟨history, hunfolds, haccounts, hstops⟩ := RunM.phases_unfolds hphases
  refine ⟨history, hunfolds, ?_, fun d hd f houtcome hf => ?_⟩
  · simpa using haccounts.append (Run.conclude_accounts hconclude)
  · rw [hstops d hd f houtcome] at hconclude
    exact Run.conclude_passes hf hconclude

theorem runScript_unfolds {source : String} {prompt : Value} {calls : List Exchange}
    {r : Except Failure Unit × Run} (h : (runScript source prompt).Passes calls r) :
    ∃ history, Script.Unfolds source prompt history ∧ Script.Accounts history calls := by
  obtain ⟨history, hunfolds, haccounts, -⟩ := runScript_unfolds_stops h
  exact ⟨history, hunfolds, haccounts⟩

end AgentScript
