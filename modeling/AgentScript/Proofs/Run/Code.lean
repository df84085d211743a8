import AgentScript.Proofs.Run.History
import AgentScript.Proofs.Run.Intact

set_option autoImplicit false

/-! # Passages in which code is run

What becomes of a run when code acts on it is settled by the activity of the code alone
(`Run.executed`): the outputs that it sets, and what it ends with. A deed either runs no code, and
then binds no names but its own, or it runs code once and ends as the activity of this code says
(`Deed.CarriesOut.code`). -/

namespace AgentScript

variable {α : Type}

/-! ## Exchanges that run code -/

/-- Exactly one of some exchanges runs code, and the code does this. -/
def RunsOnce (calls : List Exchange) (activity : Activity) : Prop :=
  ∃ first text rest, calls = first ++ ⟨.runCode text, activity⟩ :: rest
    ∧ ∀ e ∈ first ++ rest, e.code? = none

theorem Exchange.code?_eq_none {e : Exchange} (h : ∀ code, e.request ≠ .runCode code) :
    e.code? = none := by
  obtain ⟨q, r⟩ := e
  cases q with
  | runCode code => exact absurd rfl (h code)
  | _ => rfl

namespace RunsOnce

variable {calls first rest : List Exchange} {activity : Activity}

/-- What runs no code may come before the code. -/
theorem after (h : RunsOnce calls activity) (hfirst : ∀ e ∈ first, e.code? = none) :
    RunsOnce (first ++ calls) activity := by
  obtain ⟨before, text, later, rfl, hothers⟩ := h
  refine ⟨first ++ before, text, later, by rw [List.append_assoc], ?_⟩
  rw [List.append_assoc]
  exact List.forall_mem_append.2 ⟨hfirst, hothers⟩

theorem outputs (h : RunsOnce calls activity) (run : Run) :
    (calls.flatMap fun e => e.outputs run) = activity.outputs run := by
  obtain ⟨first, text, rest, rfl, hothers⟩ := h
  obtain ⟨hfirst, hrest⟩ := List.forall_mem_append.1 hothers
  rw [List.flatMap_append, List.flatMap_cons, outputs_of_no_code hfirst, outputs_of_no_code hrest,
    List.nil_append, List.append_nil]
  rfl

/-- The exchange that runs code is the one that does. -/
theorem eq_of_mem (h : RunsOnce calls activity) {code : String} {other : Activity}
    (hmem : ⟨.runCode code, other⟩ ∈ calls) : other = activity := by
  obtain ⟨first, text, rest, rfl, hothers⟩ := h
  rcases List.mem_append.1 hmem with hmem | hmem
  · cases hothers _ (List.mem_append_left rest hmem)
  rcases List.mem_cons.1 hmem with heq | hmem
  · cases heq
    rfl
  · cases hothers _ (List.mem_append_right first hmem)

/-- The exchange that runs code goes into the journal. -/
theorem journaled (h : RunsOnce calls activity) :
    RunsOnce (calls.filter fun e => World.isJournaled e.request) activity := by
  obtain ⟨first, text, rest, rfl, hothers⟩ := h
  refine ⟨first.filter _, text, rest.filter _, by rw [List.filter_append]; rfl, fun e he => ?_⟩
  rw [← List.filter_append] at he
  exact hothers e (List.mem_filter.1 he).1

end RunsOnce

/-! ## Code at work -/

/-- How an execution ends, and the run after it, once its code is known. -/
def Run.executed (run : Run) (activity : Activity) : Except Failure Unit × Run :=
  let after := run.setOutputs (activity.outputs run)
  match activity.result run with
  | .ok v => (.ok (), { after with lastResult := v })
  | .error f =>
    (.error (RunM.executeFailure (fun message => .codeFailed (RunM.stripMark message)) f), after)

/-- What runs no code and moves a run as `moves` says. -/
def withoutCode (moves : Run → Run → Prop) : Footprint :=
  ⟨fun q => ∀ code, q ≠ .runCode code, moves⟩

theorem covers_withoutCode {moves : Run → Run → Prop} (hrefl : ∀ run, moves run run)
    (htrans : ∀ {run between after}, moves run between → moves between after → moves run after) :
    (withoutCode moves).Covers fun _ => True where
  own _ _ := trivial
  trace _ := fun _ => nofun
  refl := hrefl
  trans := htrans

/-- Some names stand for the same in two runs. -/
def Run.SameNames (spared : String → Prop) (run after : Run) : Prop :=
  ∀ name, spared name → after.context.get? name = run.context.get? name

theorem covers_sameNames (spared : String → Prop) :
    (withoutCode (Run.SameNames spared)).Covers fun _ => True :=
  covers_withoutCode (fun _ _ _ => rfl)
    fun h h' name hname => (h' name hname).trans (h name hname)

theorem Run.sameNames_put {spared : String → Prop} {name : String} (h : ¬ spared name) (run : Run)
    (v : Value) : run.SameNames spared { run with context := run.context.put name v } := by
  intro other hother
  refine Bindings.get?_put_of_ne _ ?_ v
  rintro rfl
  exact h hother

namespace RunM

theorem Keeps.runs_no_code {moves : Run → Run → Prop} {gives : α → Prop} {x : RunM α}
    (hx : x.Keeps (fun _ => True) (withoutCode moves) gives) {run : Run} {calls : List Exchange}
    {r : Except Failure α × Run} (h : (x.from run).Passes calls r) :
    moves run r.2 ∧ ∀ e ∈ calls, e.code? = none := by
  obtain ⟨hends, hasks⟩ := (hx run).passes h
  exact ⟨hends.moves, fun e he => Exchange.code?_eq_none (hasks e he)⟩

theorem attempt_passes {x : RunM α} {run : Run} {calls : List Exchange}
    {r : Except Failure (Except Failure α) × Run} (h : ((attempt x).from run).Passes calls r) :
    ∃ ended after, r = (.ok ended, after) ∧ (x.from run).Passes calls (ended, after) := by
  rw [from_attempt] at h
  obtain ⟨⟨ended, after⟩, first, rest, rfl, hx, rfl, rfl⟩ := Dialogue.passes_bind.1 h
  exact ⟨ended, after, rfl, by rwa [List.append_nil]⟩

/-- What follows an attempt goes on from however the attempt ended. -/
theorem attempt_bind_passes {β : Type} {x : RunM α} {f : Except Failure α → RunM β} {run : Run}
    {calls : List Exchange} {r : Except Failure β × Run}
    (h : ((attempt x >>= f).from run).Passes calls r) :
    ∃ ended between first rest, calls = first ++ rest
      ∧ (x.from run).Passes first (ended, between) ∧ ((f ended).from between).Passes rest r := by
  obtain ⟨e, after, hattempt, rfl⟩ | ⟨ended, between, first, rest, rfl, hattempt, hrest⟩ :=
    from_bind_passes.1 h
  · obtain ⟨_, _, hr, -⟩ := attempt_passes hattempt
    cases hr
  · obtain ⟨_, _, hr, hx⟩ := attempt_passes hattempt
    cases hr
    exact ⟨ended, between, first, rest, rfl, hx, hrest⟩

/-- An output is set whether or not it can be recorded. -/
theorem writeOutput_passes {key : String} {v : Value} {run : Run} {calls : List Exchange}
    {r : Except Failure Unit × Run} (h : ((writeOutput key v).from run).Passes calls r) :
    r = (v.literal.map fun _ => (), run.setOutput key v) ∧ ∀ e ∈ calls, e.code? = none := by
  change Dialogue.Passes ((lift v.literal >>= fun text =>
    trace 3 ("sandbox set " ++ key ++ " = " ++ text)).from (run.setOutput key v)) calls r at h
  rw [from_bind, from_lift] at h
  cases hliteral : v.literal with
  | ok text =>
      rw [hliteral] at h
      obtain ⟨_, _, rfl, rfl, hr⟩ := h
      exact ⟨hr, List.forall_mem_singleton.2 rfl⟩
  | error f =>
      rw [hliteral] at h
      obtain ⟨rfl, rfl⟩ := h
      exact ⟨rfl, List.forall_mem_nil _⟩

/-- Code that is performed sets its outputs, runs no other code and ends with its result. -/
theorem perform_passes {activity : Activity} {run : Run} {calls : List Exchange}
    {r : Except Failure (Except Failure Value) × Run}
    (h : ((perform activity).from run).Passes calls r) :
    r = (.ok (activity.result run), run.setOutputs (activity.outputs run))
      ∧ ∀ e ∈ calls, e.code? = none := by
  induction activity generalizing run calls with
  | finish result =>
      obtain ⟨rfl, rfl⟩ := h
      exact ⟨rfl, List.forall_mem_nil _⟩
  | read key next ih =>
      rw [perform] at h
      obtain ⟨input, between, first, rest, rfl, hread, hrest⟩ := attempt_bind_passes h
      rw [from_readInput] at hread
      obtain ⟨rfl, hread⟩ := hread
      cases hread
      -- the code goes on with what it has read, be it a value or a failure
      rw [Activity.result, Activity.outputs]
      cases hinput : run.input key with
      | error f =>
          rw [hinput] at hrest
          exact ih _ hrest
      | ok v =>
          rw [hinput] at hrest
          obtain ⟨_, rest, rfl, hrest⟩ := hrest
          obtain ⟨hr, hcode⟩ := ih _ hrest
          exact ⟨hr, List.forall_mem_cons.2 ⟨rfl, hcode⟩⟩
  | write key v next ih =>
      rw [perform] at h
      obtain ⟨written, between, first, rest, rfl, hwrite, hrest⟩ := attempt_bind_passes h
      obtain ⟨hwritten, hfirst⟩ := writeOutput_passes hwrite
      cases hwritten
      obtain ⟨hr, hcode⟩ := ih _ hrest
      exact ⟨hr, List.forall_mem_append.2 ⟨hfirst, hcode⟩⟩
  | note message next ih =>
      obtain ⟨_, rest, rfl, hrest⟩ := h
      obtain ⟨hr, hcode⟩ := ih hrest
      exact ⟨hr, List.forall_mem_cons.2 ⟨rfl, hcode⟩⟩

/-! ## Commands and steps -/

variable {run : Run} {calls : List Exchange} {r : Except Failure Unit × Run}

/-- An execution fails before its code is run, and then leaves the run alone, or it runs code once
    and ends as this code says. -/
theorem execute_passes {code : String} (h : ((execute code).from run).Passes calls r) :
    ((∀ e ∈ calls, e.code? = none) ∧ ∃ f, r = (.error f, run))
      ∨ ∃ activity, RunsOnce calls activity ∧ r = run.executed activity := by
  have covers : (withoutCode fun run after => after = run).Covers fun _ => True :=
    covers_withoutCode (fun _ => rfl) fun h h' => h'.trans h
  have hprepare : (ensureEngine >>= fun _ => resolve code).Keeps (fun _ => True)
      (withoutCode fun run after => after = run) fun _ => True :=
    .bind covers (ensureEngine_keeps covers fun q hq code => by rintro rfl; cases hq)
      fun _ _ => resolve_keeps covers code
  rw [execute_eq] at h
  obtain ⟨f, after, hfails, rfl⟩ | ⟨text, between, first, rest, rfl, hready, hrest⟩ :=
    from_bind_passes.1 h
  · -- no code was run
    obtain ⟨rfl, hcode⟩ := hprepare.runs_no_code hfails
    exact .inl ⟨hcode, f, rfl⟩
  · obtain ⟨rfl, hcode⟩ := hprepare.runs_no_code hready
    obtain ⟨activity, rest, rfl, hrest⟩ := hrest
    refine .inr ⟨activity, ?_⟩
    have hperform := from_bind_passes.1 hrest
    obtain ⟨f, after, hperform, -⟩ | ⟨result, after, performed, rest, rfl, hperform, hend⟩ :=
      hperform
    · cases (perform_passes hperform).1
    · obtain ⟨hresult, hperformed⟩ := perform_passes hperform
      cases hresult
      unfold Run.executed
      -- nothing follows the code but its own result
      cases hresult : activity.result between with
      | ok v =>
          rw [hresult] at hend
          obtain ⟨rfl, rfl⟩ := hend
          rw [List.append_nil]
          exact ⟨⟨first, text, performed, rfl, List.forall_mem_append.2 ⟨hcode, hperformed⟩⟩, rfl⟩
      | error f =>
          rw [hresult] at hend
          obtain ⟨rfl, rfl⟩ := hend
          rw [List.append_nil]
          exact ⟨⟨first, text, performed, rfl, List.forall_mem_append.2 ⟨hcode, hperformed⟩⟩, rfl⟩

end RunM

/-- Only an execution runs code, and only an execution changes what names stand for. -/
theorem Command.within_sameNames {c : Command} (h : ∀ code, c ≠ .execute code)
    (spared : String → Prop) : c.footprint.Within (withoutCode (Run.SameNames spared)) := by
  refine ⟨?_, fun run after hmoves => ?_⟩
  · rintro q hq code rfl
    cases c with
    | execute code => exact h code rfl
    | _ => cases hq
  · cases c with
    | execute code => exact absurd rfl (h code)
    | createAI | getNote | runAI | runAgent | saveFile | deleteFile | getFile =>
        obtain ⟨_, rfl⟩ := hmoves
        exact fun _ _ => rfl
    | _ =>
        obtain rfl := hmoves
        exact fun _ _ => rfl

/-- The names that an action of a step binds by itself, whatever code does. -/
def Script.Action.Binds (name : String) : Action → Prop
  | .override _ => name = "answer"
  | .keep (some kept) => name = kept
  | _ => False

/-- How a command or a step may go: it runs no code and spares some names, or it runs code once and
    ends as this code says. -/
def CodeSettles (spared : String → Prop) (run : Run) (calls : List Exchange)
    (r : Except Failure Unit × Run) : Prop :=
  ((∀ e ∈ calls, e.code? = none) ∧ run.SameNames spared r.2)
    ∨ ∃ activity, RunsOnce calls activity ∧ r = run.executed activity

theorem CodeSettles.after_trace {spared : String → Prop} {run : Run} {calls : List Exchange}
    {r : Except Failure Unit × Run} (h : CodeSettles spared run calls r) (record : TraceRecord)
    (reply : Unit) : CodeSettles spared run (⟨.trace record, reply⟩ :: calls) r := by
  obtain ⟨hcode, hnames⟩ | ⟨activity, honce, hr⟩ := h
  · exact .inl ⟨List.forall_mem_cons.2 ⟨rfl, hcode⟩, hnames⟩
  · exact .inr ⟨activity, honce.after (List.forall_mem_singleton.2 rfl), hr⟩

namespace RunM

variable {run : Run} {calls : List Exchange} {r : Except Failure Unit × Run}

theorem dispatch_codeSettles {c : Command} (h : ((dispatch c).from run).Passes calls r)
    (spared : String → Prop) : CodeSettles spared run calls r := by
  by_cases hc : ∃ code, c = .execute code
  · obtain ⟨code, rfl⟩ := hc
    obtain ⟨_, rest, rfl, hexecute⟩ := h
    refine .after_trace ?_ _ _
    obtain ⟨hcode, f, rfl⟩ | hruns := execute_passes hexecute
    · exact .inl ⟨hcode, fun _ _ => rfl⟩
    · exact .inr hruns
  · rw [not_exists] at hc
    have hkeeps := dispatch_keeps (covers_sameNames spared) c (Command.within_sameNames hc spared)
    have hnone := hkeeps.runs_no_code h
    exact .inl ⟨hnone.2, hnone.1⟩

theorem act_codeSettles {action : Script.Action} (h : ((act action).from run).Passes calls r) :
    CodeSettles (fun name => ¬ action.Binds name) run calls r := by
  have hnone {x : RunM Unit} {spared : String → Prop}
      (hx : x.Keeps (fun _ => True) (withoutCode (Run.SameNames spared)) fun _ => True)
      (h : (x.from run).Passes calls r) : CodeSettles spared run calls r :=
    .inl (hx.runs_no_code h).symm
  have covers := covers_sameNames fun name => ¬ action.Binds name
  cases action with
  | override body =>
      exact hnone (.bind covers (resolve_keeps covers body) fun _ _ =>
        .modify fun run => run.sameNames_put (not_not_intro rfl) _) h
  | callAgent agent arguments => exact dispatch_codeSettles h _
  | callCommand name arguments =>
      change Dialogue.Passes ((lift (Command.ofCall name arguments) >>= dispatch).from run) calls r
        at h
      rw [from_bind, from_lift] at h
      cases hc : Command.ofCall name arguments with
      | error f =>
          rw [hc] at h
          obtain ⟨rfl, rfl⟩ := h
          exact .inl ⟨List.forall_mem_nil _, fun _ _ => rfl⟩
      | ok c =>
          rw [hc] at h
          exact dispatch_codeSettles h _
  | keep name =>
      cases name with
      | none => exact hnone (.pure covers trivial) h
      | some name =>
          refine hnone (.bind covers (.get covers) fun run _ => ?_) h
          refine .bind covers (.modify fun run => run.sameNames_put (not_not_intro rfl) _)
            fun _ _ => ?_
          exact .bind covers (lift_keeps covers (Value.literal_failsIn _)) fun _ _ =>
            trace_keeps covers _ _
  | register agent =>
      refine hnone (act_keeps covers (.register agent) ⟨?_, ?_⟩) h
      · rintro _ ⟨message, rfl⟩ code
        nofun
      · rintro run _ ⟨agents, rfl⟩
        exact fun _ _ => rfl
  | nothing => exact hnone (.pure covers trivial) h

end RunM

/-- A deed either runs no code, and then binds no names but its own, or it runs code once and ends
    as this code says. -/
theorem Deed.CarriesOut.code {d : Deed} {s : Script.Step} (h : d.CarriesOut s) :
    CodeSettles (fun name => ¬ s.action.Binds name) d.before d.calls (d.outcome, d.after) := by
  obtain ⟨-, _, rest, hcalls, hact⟩ := h
  rw [hcalls]
  exact .after_trace (RunM.act_codeSettles hact) _ _

end AgentScript
