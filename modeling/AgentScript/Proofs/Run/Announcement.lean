import AgentScript.Proofs.Run.History
import AgentScript.Proofs.Run.Phase

set_option autoImplicit false

/-! # Who logs the announcement

A run logs the announcement before it prepares the sandbox, and a log call may log the same line. In
the exchanges of a run the two are told apart by the phase: a run that logs the line while it rests
does not go on to prepare anything, and this announcement is a stray. Apart from strays there is one
announcement for each preparation (`EnginePhase.countP_announces`), and in a run of a script the
strays are the deeds of log calls (`runScript_strays_eq_zero_iff`). -/

namespace AgentScript

variable {α β : Type}

/-! ## Strays -/

/-- Whether an exchange logs the announcement. -/
def Exchange.announces (e : Exchange) : Bool :=
  match e.request with
  | .logAction line => line == bootLine
  | _ => false

namespace EnginePhase

/-- How often the announcement is logged by a run that rests. -/
def strays : EnginePhase → List Exchange → Nat
  | _, [] => 0
  | p, e :: later =>
    (p.isResting && e.announces).toNat + (p.next e.request e.reply).strays later

theorem strays_append (p : EnginePhase) (calls more : List Exchange) :
    p.strays (calls ++ more) = p.strays calls + (p.after calls).strays more := by
  induction calls generalizing p with
  | nil => exact (Nat.zero_add _).symm
  | cons e later ih =>
      rw [List.cons_append, strays, strays, ih, Nat.add_assoc]
      rfl

/-- One if a run is about to prepare the sandbox, as it has announced. -/
def pending (p : EnginePhase) : Nat :=
  if p = .announced then 1 else 0

theorem announces_of_isApart {logs : String → Prop} {e : Exchange} (h : e.request.IsApart logs)
    (hlogs : ¬ logs bootLine) : e.announces = false := by
  obtain ⟨q, r⟩ := e
  cases q with
  | logAction line =>
      refine beq_false_of_ne fun hline => hlogs ?_
      rwa [← hline]
  | _ => rfl

theorem isBoot_of_isApart {logs : String → Prop} {e : Exchange} (h : e.request.IsApart logs) :
    e.isBoot = false := by
  obtain ⟨q, r⟩ := e
  cases q with
  | boot => exact h.elim
  | _ => rfl

/-- What a run may ask while it rests. -/
theorem isApart_or_of_isResting {logs : String → Prop} {p : EnginePhase} (hp : p.isResting)
    {q : Request} (h : p.Allows logs q) :
    q.IsApart logs ∨ q = .engineState ∨ ∃ code, q = .runCode code := by
  cases p with
  | rest => exact h.imp_right .inl
  | ready => exact h
  | _ => cases hp

theorem pending_of_isResting {p : EnginePhase} (hp : p.isResting) : p.pending = 0 := by
  cases p with
  | announced => cases hp
  | _ => rfl

/-- A run that rests neither prepares the sandbox nor is about to after the next exchange. -/
theorem pending_next_of_isResting {logs : String → Prop} {p : EnginePhase} (hp : p.isResting)
    {e : Exchange} (h : p.Allows logs e.request) :
    e.isBoot = false ∧ (p.next e.request e.reply).pending = 0 := by
  have hapart := isApart_or_of_isResting hp h
  obtain ⟨q, r⟩ := e
  obtain hapart | rfl | ⟨code, rfl⟩ := hapart
  · rw [next_of_isApart hp hapart]
    exact ⟨isBoot_of_isApart hapart, pending_of_isResting hp⟩
  · refine ⟨rfl, ?_⟩
    cases p <;> cases r <;> first | rfl | cases hp
  · refine ⟨rfl, ?_⟩
    cases p <;> first | rfl | cases hp

/-- What one exchange does to the numbers of announcements, preparations and strays. -/
theorem announces_next {logs : String → Prop} {p : EnginePhase} {e : Exchange}
    (h : p.Allows logs e.request) :
    e.announces.toNat + p.pending
      = e.isBoot.toNat + (p.isResting && e.announces).toNat
        + (p.next e.request e.reply).pending := by
  by_cases hp : p.isResting
  · obtain ⟨hboot, hnext⟩ := pending_next_of_isResting hp h
    rw [hboot, hnext, pending_of_isResting hp, hp, Bool.true_and, Bool.toNat_false, Nat.zero_add]
  · obtain ⟨q, r⟩ := e
    cases p with
    | rest | ready => exact absurd rfl hp
    | cold =>
        obtain rfl := h
        rfl
    | announced =>
        obtain rfl := h
        change 0 + 1 = 1 + 0 + pending (if _ then _ else _)
        split <;> rfl
    | booted => rcases h with rfl | ⟨record, rfl⟩ <;> rfl

theorem countP_cons_toNat (P : Exchange → Bool) (e : Exchange) (later : List Exchange) :
    (e :: later).countP P = later.countP P + (P e).toNat := by
  rw [List.countP_cons]
  cases P e <;> rfl

/-- Apart from strays there is one announcement for each preparation, but for one that is about to
    follow. -/
theorem countP_announces {logs : String → Prop} {p : EnginePhase} {calls : List Exchange}
    (h : p.AllowsAll logs calls) :
    calls.countP Exchange.announces + p.pending
      = calls.countP Exchange.isBoot + p.strays calls + (p.after calls).pending := by
  induction calls generalizing p with
  | nil => rfl
  | cons e later ih =>
      have hnext := announces_next h.1
      have hlater := ih h.2
      rw [countP_cons_toNat, countP_cons_toNat, strays, after]
      omega

/-- A run that logs the announcement only to prepare the sandbox has no strays. -/
theorem strays_eq_zero {logs : String → Prop} (hlogs : ¬ logs bootLine) {p : EnginePhase}
    {calls : List Exchange} (h : p.AllowsAll logs calls) : p.strays calls = 0 := by
  induction calls generalizing p with
  | nil => rfl
  | cons e later ih =>
      have hnot : (p.isResting && e.announces) = false := by
        refine Bool.and_eq_false_imp.2 fun hp => ?_
        have hapart := isApart_or_of_isResting hp h.1
        obtain ⟨q, r⟩ := e
        obtain hapart | rfl | ⟨code, rfl⟩ := hapart
        · exact announces_of_isApart hapart hlogs
        · rfl
        · rfl
      rw [strays, ih h.2, hnot, Bool.toNat_false]

theorem strays_eq_zero_of_silent {p : EnginePhase} {calls : List Exchange}
    (h : ∀ e ∈ calls, e.announces = false) : p.strays calls = 0 := by
  induction calls generalizing p with
  | nil => rfl
  | cons e later ih =>
      obtain ⟨he, hlater⟩ := List.forall_mem_cons.1 h
      rw [strays, ih hlater, he, Bool.and_false, Bool.toNat_false]

end EnginePhase

/-! ## Deeds on the way -/

/-- In the course of some exchanges, a dialogue comes to a step and carries it out. -/
def Dialogue.Makes (d : Dialogue α) (calls : List Exchange) (deed : Deed) : Prop :=
  ∃ (s : Script.Step) (next : Except Failure Unit × Run → Dialogue α)
    (first later : List Exchange), deed.CarriesOut s ∧ calls = first ++ (deed.calls ++ later)
      ∧ d.Reaches first ((RunM.step s).from deed.before >>= next)

/-- A deed that logs a line: what the argument of a log call stands for at that moment. -/
def Deed.Logs (d : Deed) (line : String) : Prop :=
  d.outcome = .ok () ∧ ∃ arguments, d.action = .callCommand "log" arguments
    ∧ d.before.context.resolve (Script.stripQuotes arguments) = .ok line

/-- From a phase on, a dialogue makes no stray announcements but those of log calls. -/
def Dialogue.LogsStrays (p : EnginePhase) (d : Dialogue α) : Prop :=
  ∀ calls left, d.Reaches calls left → p.strays calls ≠ 0 →
    ∃ deed, d.Makes calls deed ∧ deed.Logs bootLine

namespace Dialogue

theorem Makes.bind {d : Dialogue α} {calls : List Exchange} {deed : Deed} (h : d.Makes calls deed)
    (f : α → Dialogue β) (more : List Exchange) : (d >>= f).Makes (calls ++ more) deed := by
  obtain ⟨s, next, first, later, hdeed, rfl, hreaches⟩ := h
  have hf := hreaches.bind f
  rw [LawfulMonad.bind_assoc] at hf
  exact ⟨s, _, first, later ++ more, hdeed, by simp only [List.append_assoc], hf⟩

theorem Makes.after {d : Dialogue α} {f : α → Dialogue β} {a : α} {first calls : List Exchange}
    {deed : Deed} (hfirst : d.Reaches first (.done a)) (h : (f a).Makes calls deed) :
    (d >>= f).Makes (first ++ calls) deed := by
  obtain ⟨s, next, before, later, hdeed, rfl, hreaches⟩ := h
  refine ⟨s, next, first ++ before, later, hdeed, by simp only [List.append_assoc], ?_⟩
  exact (hfirst.bind f).trans hreaches

/-- A dialogue that logs the announcement only to prepare the sandbox makes no strays at all. -/
theorem LogsStrays.of_follows {logs : String → Prop} (hlogs : ¬ logs bootLine)
    {ends : EnginePhase → α → Prop} {p : EnginePhase} {d : Dialogue α}
    (h : d.Follows logs ends p) : d.LogsStrays p :=
  fun _ _ hcalls hstrays =>
    absurd (EnginePhase.strays_eq_zero hlogs (h.reaches hcalls).1) hstrays

theorem LogsStrays.bind {logs : String → Prop} {ends : EnginePhase → α → Prop} {p : EnginePhase}
    {d : Dialogue α} {f : α → Dialogue β} (hd : d.Follows logs ends p) (h : d.LogsStrays p)
    (hf : ∀ p a, ends p a → (f a).LogsStrays p) : (d >>= f).LogsStrays p := by
  intro calls left hcalls hstrays
  obtain ⟨between, hbetween, -⟩ | ⟨a, first, later, rfl, hfirst, hlater⟩ := reaches_bind hcalls
  · obtain ⟨deed, hmakes, hlogs⟩ := h _ _ hbetween hstrays
    have hbind := hmakes.bind f []
    rw [List.append_nil] at hbind
    exact ⟨deed, hbind, hlogs⟩
  · by_cases hzero : p.strays first = 0
    · rw [EnginePhase.strays_append, hzero, Nat.zero_add] at hstrays
      have hends := (hd.reaches hfirst).2
      obtain ⟨deed, hmakes, hlogs⟩ := hf _ a hends _ _ hlater hstrays
      exact ⟨deed, .after hfirst hmakes, hlogs⟩
    · obtain ⟨deed, hmakes, hlogs⟩ := h _ _ hfirst hzero
      exact ⟨deed, hmakes.bind f later, hlogs⟩

end Dialogue

/-! ## Log calls -/

theorem Script.Action.eq_callCommand {action : Script.Action} {name : String}
    (h : action.command? = some name) : ∃ arguments, action = .callCommand name arguments := by
  cases action with
  | callCommand name' arguments =>
      obtain rfl := Option.some.inj h
      exact ⟨arguments, rfl⟩
  | _ => cases h

namespace RunM

/-- A log call is recorded twice before its line is logged. -/
theorem from_step_log {s : Script.Step} {arguments : String}
    (haction : s.action = .callCommand "log" arguments) (run : Run) :
    ∃ recorded dispatched, (step s).from run = .ask (.trace recorded) fun _ =>
      .ask (.trace dispatched) fun _ =>
        (resolve (Script.stripQuotes arguments) >>= logAction).from run := by
  rw [step, haction]
  exact ⟨_, _, rfl⟩

theorem from_step_log_ok {s : Script.Step} {arguments line : String}
    (haction : s.action = .callCommand "log" arguments) {run : Run}
    (hline : run.context.resolve (Script.stripQuotes arguments) = .ok line) :
    ∃ recorded dispatched, (step s).from run = .ask (.trace recorded) fun _ =>
      .ask (.trace dispatched) fun _ => .ask (.logAction line) fun _ => .done (.ok (), run) := by
  obtain ⟨recorded, dispatched, hfrom⟩ := from_step_log haction run
  rw [from_resolve_bind_ok hline] at hfrom
  exact ⟨recorded, dispatched, hfrom⟩

end RunM

/-- The exchanges of a deed that logs a line. -/
theorem Deed.Logs.calls {d : Deed} {s : Script.Step} {line : String} (hlogs : d.Logs line)
    (hd : d.CarriesOut s) :
    ∃ recorded dispatched, d.calls
      = [⟨.trace recorded, ()⟩, ⟨.trace dispatched, ()⟩, ⟨.logAction line, ()⟩] := by
  obtain ⟨haction, hpass⟩ := hd
  obtain ⟨-, arguments, hcall, hline⟩ := hlogs
  obtain ⟨recorded, dispatched, hfrom⟩ :=
    RunM.from_step_log_ok (haction.symm.trans hcall) hline
  rw [hfrom] at hpass
  obtain ⟨_, _, hcalls, _, _, rfl, _, _, rfl, rfl, -⟩ := hpass
  exact ⟨recorded, dispatched, hcalls⟩

/-- A log call that logs the announcement is a stray of the run that makes it. -/
theorem EnginePhase.strays_of_logs {p : EnginePhase} {recorded dispatched : TraceRecord}
    {later : List Exchange} (h : p.AllowsAll RunM.anyLine
      (⟨.trace recorded, ()⟩ :: ⟨.trace dispatched, ()⟩ :: ⟨.logAction bootLine, ()⟩ :: later)) :
    p.strays (⟨.trace recorded, ()⟩ :: ⟨.trace dispatched, ()⟩ :: ⟨.logAction bootLine, ()⟩ :: later)
      ≠ 0 := by
  obtain ⟨hrecorded, -, hline, -⟩ := h
  cases p with
  | rest | ready => simp [strays, next, isResting, Exchange.announces]
  | cold | announced => cases hrecorded
  | booted => rcases hline with hline | ⟨_, hline⟩ <;> cases hline

namespace RunM

/-- An action that makes no stray announcements but those of log calls. -/
def LogsStrays (x : RunM α) : Prop :=
  ∀ run p, p.isResting → (x.from run).LogsStrays p

theorem LogsStrays.of_follows {x : RunM α} (h : x.Follows (· ≠ bootLine)) : x.LogsStrays :=
  fun run p hp => .of_follows (fun hne => hne rfl) (h run p hp)

theorem LogsStrays.bind {x : RunM α} {f : α → RunM β} (hx : x.Follows anyLine)
    (h : x.LogsStrays) (hf : ∀ a, (f a).LogsStrays) : (x >>= f).LogsStrays := by
  intro run p hp
  rw [from_bind]
  refine .bind (hx run p hp) (h run p hp) fun p' r hp' => ?_
  obtain ⟨e | a, after⟩ := r
  · have hdone : (Dialogue.done ((.error e, after) : Except Failure β × Run)).Follows
        (· ≠ bootLine) (fun _ _ => True) p' := trivial
    exact .of_follows (fun hne => hne rfl) hdone
  · exact hf a after p' hp'

/-- A dialogue that ends when it has logged a line either has not got that far or has ended. -/
theorem silent_or_eq_of_reaches {recorded dispatched : TraceRecord} {line : String} {a : α}
    {calls : List Exchange} {left : Dialogue α}
    (h : Dialogue.Reaches (.ask (.trace recorded) fun _ => .ask (.trace dispatched) fun _ =>
      .ask (.logAction line) fun _ => .done a) calls left) :
    (∀ e ∈ calls, e.announces = false)
      ∨ calls = [⟨.trace recorded, ()⟩, ⟨.trace dispatched, ()⟩, ⟨.logAction line, ()⟩] := by
  cases h with
  | here => exact .inl (List.forall_mem_nil _)
  | on h =>
      cases h with
      | here => exact .inl (List.forall_mem_singleton.2 rfl)
      | on h =>
          cases h with
          | here => exact .inl (List.forall_mem_cons.2 ⟨rfl, List.forall_mem_singleton.2 rfl⟩)
          | on h =>
              cases h
              exact .inr rfl

/-- A log call makes a stray announcement by the deed that it is, if at all. -/
theorem step_logsStrays_of_log {s : Script.Step} {arguments : String}
    (haction : s.action = .callCommand "log" arguments) : (step s).LogsStrays := by
  intro run p hp
  have hquiet {d : Dialogue (Except Failure Unit × Run)}
      (h : d.Keeps (fun _ => True) (fun q => q.IsApart (· ≠ bootLine)) fun _ => True) :
      d.LogsStrays p := .of_follows (fun hne => hne rfl) (h.follows hp)
  cases hresolve : run.context.resolve (Script.stripQuotes arguments) with
  | error f =>
      obtain ⟨recorded, dispatched, hfrom⟩ := from_step_log haction run
      rw [hfrom, from_resolve_bind_error hresolve]
      exact hquiet ⟨trivial, fun _ _ => ⟨trivial, fun _ _ => trivial⟩⟩
  | ok line =>
      obtain ⟨recorded, dispatched, hfrom⟩ := from_step_log_ok haction hresolve
      by_cases hline : line = bootLine
      · subst hline
        intro calls left hcalls hstrays
        refine ⟨⟨s.action, run, calls, .ok (), run⟩, ?_, rfl, arguments, haction, hresolve⟩
        rw [hfrom] at hcalls
        obtain hsilent | rfl := silent_or_eq_of_reaches hcalls
        · exact absurd (EnginePhase.strays_eq_zero_of_silent hsilent) hstrays
        · have hhere : ((step s).from run).Reaches [] (((step s).from run).bind .done) := by
            rw [Dialogue.bind_done]
            exact .here _
          refine ⟨s, .done, [], [], ⟨rfl, ?_⟩, (List.append_nil _).symm, hhere⟩
          rw [hfrom]
          exact ⟨(), _, rfl, (), _, rfl, (), _, rfl, rfl, rfl⟩
      · rw [hfrom]
        exact hquiet ⟨trivial, fun _ _ => ⟨trivial, fun _ _ => ⟨hline, fun _ _ => trivial⟩⟩⟩

theorem step_logsStrays (s : Script.Step) : (step s).LogsStrays := by
  by_cases hlog : s.action.command? = some "log"
  · obtain ⟨arguments, haction⟩ := Script.Action.eq_callCommand hlog
    exact step_logsStrays_of_log haction
  · exact .of_follows (step_follows allowsOwn_ne_bootLine fun h => absurd h hlog)

theorem runSteps_logsStrays (steps : List Script.Step) : (runSteps steps).LogsStrays := by
  induction steps with
  | nil => exact .of_follows (.of_keeps (.pure (covers_apart _) trivial))
  | cons s rest ih =>
      exact .bind (step_follows allowsOwn_anyLine fun _ _ => trivial) (step_logsStrays s) fun _ => ih

theorem runBlock?_logsStrays (announcement : String) (block : Option String) :
    (runBlock? announcement block).LogsStrays := by
  have h := covers_apart (· ≠ bootLine)
  unfold runBlock?
  cases Command.nonempty? block with
  | none => exact .of_follows (.of_keeps (.pure h trivial))
  | some text =>
      have htrace : (trace 1 announcement).Follows anyLine :=
        .of_keeps (trace_keeps (covers_apart anyLine) _ _)
      exact .bind htrace (.of_follows (.of_keeps (trace_keeps h _ _))) fun _ =>
        runSteps_logsStrays (Script.steps text)

theorem phases_logsStrays (source : String) : (phases source).LogsStrays := by
  have h := covers_apart (· ≠ bootLine)
  have hany := covers_apart anyLine
  have hanswer := produceAnswer_keeps_apart allowsOwn_anyLine (Script.Blocks.ofText source)
  refine .bind (.of_keeps (trace_keeps hany _ _)) (.of_follows (.of_keeps (trace_keeps h _ _)))
    fun _ => .bind (runBlock?_follows _ _) (runBlock?_logsStrays _ _) fun _ => ?_
  refine .bind (.of_keeps hanswer)
    (.of_follows (.of_keeps (produceAnswer_keeps_apart allowsOwn_ne_bootLine _))) fun _ => ?_
  refine .bind (runBlock?_follows _ _) (runBlock?_logsStrays _ _) fun _ => ?_
  exact .of_follows (.of_keeps (postAnswer_keeps h (fun _ => trivial) fun _ => trivial))

end RunM

/-- The stray announcements of a script are those of its log calls. -/
theorem runScript_logsStrays (source : String) (prompt : Value) :
    (runScript source prompt).LogsStrays .rest := by
  rw [runScript_eq_conclude]
  refine .bind (RunM.phases_follows source (.start prompt) .rest rfl)
    (RunM.phases_logsStrays source (.start prompt) .rest rfl) fun p r hp => ?_
  exact .of_follows (fun hne => hne rfl) ((Run.conclude_keeps_apart (· ≠ bootLine) r).follows hp)

/-- A script that has come a part of its way has made no stray announcement just in case none of its
    log calls has logged the line. -/
theorem runScript_strays_eq_zero_iff {source : String} {prompt : Value} {calls : List Exchange}
    {left : Dialogue (Except Failure Unit × Run)} (h : (runScript source prompt).Reaches calls left) :
    EnginePhase.rest.strays calls = 0
      ↔ ∀ deed, (runScript source prompt).Makes calls deed → ¬ deed.Logs bootLine := by
  constructor
  · rintro hzero deed ⟨s, next, first, later, hdeed, rfl, -⟩ hlogs
    obtain ⟨recorded, dispatched, hcalls⟩ := hlogs.calls hdeed
    have hallows := ((runScript_follows source prompt).reaches h).1
    rw [EnginePhase.allowsAll_append, hcalls] at hallows
    rw [EnginePhase.strays_append, hcalls] at hzero
    exact EnginePhase.strays_of_logs hallows.2 (Nat.eq_zero_of_add_eq_zero hzero).2
  · intro hnone
    refine Decidable.byContradiction fun hstrays => ?_
    obtain ⟨deed, hmakes, hlogs⟩ := runScript_logsStrays source prompt calls left h hstrays
    exact hnone deed hmakes hlogs

end AgentScript
