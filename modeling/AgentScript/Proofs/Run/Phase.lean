import AgentScript.Proofs.Run.Additive
import AgentScript.Proofs.Run.Passage

set_option autoImplicit false

/-! # How a run prepares the sandbox

A run that is about to execute code goes through phases: it asks for the state of the sandbox,
announces that it prepares it, prepares it, and notes that it has. A dialogue *follows* the phases
if it puts each request only in a phase that allows it (`Dialogue.Follows`). All that a script does
follows the phases (`runScript_follows`), and what it does apart from its log calls never logs the
announcement but to prepare the sandbox (`RunM.act_follows`). -/

namespace AgentScript

variable {α β : Type}

/-! ## Phases -/

/-- The line that announces that the sandbox is being prepared. -/
def bootLine : String := "Booting Python Engine..."

/-- How far a run is with the sandbox. -/
inductive EnginePhase where
  /-- The run has nothing to do with the sandbox. -/
  | rest
  /-- The run has been told that the sandbox is not prepared. -/
  | cold
  | announced
  /-- The run has prepared the sandbox, but has not noted it yet. -/
  | booted
  /-- The run knows that the sandbox is prepared. -/
  | ready
deriving DecidableEq

/-- A request that has nothing to do with the sandbox; a line that it logs is one of `logs`. -/
def Request.IsApart (logs : String → Prop) : Request → Prop
  | .engineState | .boot | .engineReady | .runCode _ => False
  | .logAction line => logs line
  | _ => True

namespace EnginePhase

/-- The phases in which a run may do anything else, and end. -/
def isResting : EnginePhase → Bool
  | .rest | .ready => true
  | _ => false

/-- The requests that a run may put in a phase. -/
def Allows (logs : String → Prop) : EnginePhase → Request → Prop
  | .rest, q => q.IsApart logs ∨ q = .engineState
  | .ready, q => q.IsApart logs ∨ q = .engineState ∨ ∃ code, q = .runCode code
  | .cold, q => q = .logAction bootLine
  | .announced, q => q = .boot
  | .booted, q => q = .engineReady ∨ ∃ record, q = .trace record

/-- The phase of a run that is told the state of the sandbox. -/
def ofState : EngineState → EnginePhase
  | .absent => .rest
  | .cold => .cold
  | .ready => .ready

/-- The phase after a request has been answered. -/
def next : EnginePhase → (q : Request) → q.Reply → EnginePhase
  | .rest, .engineState, state | .ready, .engineState, state => ofState state
  | .cold, _, _ => .announced
  | .announced, .boot, boot => if boot.result.isOk then .booted else .rest
  | .booted, .engineReady, _ => .ready
  | p, _, _ => p

/-- The phase after some exchanges. -/
def after : EnginePhase → List Exchange → EnginePhase
  | p, [] => p
  | p, e :: later => (p.next e.request e.reply).after later

/-- Exchanges each of which puts a request that its phase allows. -/
def AllowsAll (logs : String → Prop) : EnginePhase → List Exchange → Prop
  | _, [] => True
  | p, e :: later => p.Allows logs e.request ∧ (p.next e.request e.reply).AllowsAll logs later

theorem after_append (p : EnginePhase) (calls more : List Exchange) :
    p.after (calls ++ more) = (p.after calls).after more := by
  induction calls generalizing p with
  | nil => rfl
  | cons e later ih => exact ih _

theorem allowsAll_append {logs : String → Prop} {p : EnginePhase} {calls more : List Exchange} :
    p.AllowsAll logs (calls ++ more)
      ↔ p.AllowsAll logs calls ∧ (p.after calls).AllowsAll logs more := by
  induction calls generalizing p with
  | nil => exact (iff_of_eq (true_and _)).symm
  | cons e later ih => exact (and_congr_right fun _ => ih).trans and_assoc.symm

theorem allows_of_isApart {logs : String → Prop} {p : EnginePhase} (hp : p.isResting)
    {q : Request} (hq : q.IsApart logs) : p.Allows logs q := by
  cases p with
  | rest | ready => exact .inl hq
  | _ => cases hp

theorem next_of_isApart {logs : String → Prop} {p : EnginePhase} (hp : p.isResting) {q : Request}
    (hq : q.IsApart logs) (r : q.Reply) : p.next q r = p := by
  cases q with
  | engineState | boot | engineReady | runCode => exact hq.elim
  | _ => cases p <;> first | rfl | cases hp

end EnginePhase

/-! ## Dialogues that follow the phases -/

/-- From the phase `p` on, a dialogue puts only requests that its phases allow, and it ends as
    `ends` says. -/
def Dialogue.Follows (logs : String → Prop) (ends : EnginePhase → α → Prop) :
    EnginePhase → Dialogue α → Prop
  | p, .done a => ends p a
  | p, .ask q next => p.Allows logs q ∧ ∀ r, (next r).Follows logs ends (p.next q r)

variable {logs : String → Prop}

namespace Dialogue

theorem Follows.mono {ends more : EnginePhase → α → Prop} {p : EnginePhase} {d : Dialogue α}
    (h : d.Follows logs ends p) (hends : ∀ p a, ends p a → more p a) : d.Follows logs more p := by
  induction d generalizing p with
  | done a => exact hends p a h
  | ask q next ih => exact ⟨h.1, fun r => ih r (h.2 r)⟩

theorem Follows.bind {ends : EnginePhase → α → Prop} {ends' : EnginePhase → β → Prop}
    {p : EnginePhase} {d : Dialogue α} {f : α → Dialogue β} (h : d.Follows logs ends p)
    (hf : ∀ p a, ends p a → (f a).Follows logs ends' p) : (d >>= f).Follows logs ends' p := by
  induction d generalizing p with
  | done a => exact hf p a h
  | ask q next ih => exact ⟨h.1, fun r => ih r (h.2 r)⟩

/-- On its way, a dialogue has put requests that its phases allow, and goes on to follow them. -/
theorem Follows.reaches {ends : EnginePhase → α → Prop} {p : EnginePhase} {d left : Dialogue α}
    {calls : List Exchange} (h : d.Follows logs ends p) (hcalls : d.Reaches calls left) :
    p.AllowsAll logs calls ∧ left.Follows logs ends (p.after calls) := by
  induction hcalls generalizing p with
  | here d => exact ⟨trivial, h⟩
  | on _ ih =>
      obtain ⟨hrest, hleft⟩ := ih (h.2 _)
      exact ⟨⟨h.1, hrest⟩, hleft⟩

/-- What has nothing to do with the sandbox does not leave a phase in which a run rests. -/
theorem Keeps.follows {ends : α → Prop} {d : Dialogue α}
    (h : d.Keeps (fun _ => True) (fun q => q.IsApart logs) ends) {p : EnginePhase}
    (hp : p.isResting) : d.Follows logs (fun p' a => p' = p ∧ ends a) p := by
  induction d with
  | done a => exact ⟨rfl, h⟩
  | ask q next ih =>
      obtain ⟨hq, hnext⟩ := h
      refine ⟨EnginePhase.allows_of_isApart hp hq, fun r => ?_⟩
      rw [EnginePhase.next_of_isApart hp hq]
      exact ih r (hnext r (q.failsIn_all r))

end Dialogue

namespace RunM

/-- An action that follows the phases from one in which a run rests to another one. -/
def Follows (logs : String → Prop) (x : RunM α) : Prop :=
  ∀ run p, p.isResting → (x.from run).Follows logs (fun p' _ => p'.isResting) p

/-- What is done apart from the sandbox. -/
def apart (logs : String → Prop) : Footprint :=
  ⟨fun q => q.IsApart logs, fun _ _ => True⟩

theorem covers_apart (logs : String → Prop) : (apart logs).Covers fun _ => True where
  own _ _ := trivial
  trace _ := trivial
  refl _ := trivial
  trans _ _ := trivial

theorem Follows.of_keeps {x : RunM α}
    (h : x.Keeps (fun _ => True) (apart logs) fun _ => True) : x.Follows logs := by
  intro run p hp
  refine (Dialogue.Keeps.follows (h run) hp).mono fun p' a hend => ?_
  rw [hend.1]
  exact hp

/-- An action from one state, and what goes on from its end. -/
theorem from_bind_follows {x : RunM α} {f : α → RunM β} {run : Run} {p : EnginePhase}
    {ends : EnginePhase → Except Failure α × Run → Prop}
    {ends' : EnginePhase → Except Failure β × Run → Prop}
    (hx : (x.from run).Follows logs ends p)
    (hfailed : ∀ p e after, ends p (.error e, after) → ends' p (.error e, after))
    (hf : ∀ p a after, ends p (.ok a, after) → ((f a).from after).Follows logs ends' p) :
    ((x >>= f).from run).Follows logs ends' p := by
  rw [from_bind]
  refine hx.bind fun p' r hr => ?_
  obtain ⟨e | a, after⟩ := r
  · exact hfailed p' e after hr
  · exact hf p' a after hr

theorem Follows.bind {x : RunM α} {f : α → RunM β} (hx : x.Follows logs)
    (hf : ∀ a, (f a).Follows logs) : (x >>= f).Follows logs :=
  fun run p hp => from_bind_follows (hx run p hp) (fun _ _ _ hp' => hp')
    fun p' a after hp' => hf a after p' hp'

/-! ## The sandbox -/

theorem notes_follows {p : EnginePhase}
    (hp : ∀ record r, p.Allows logs (.trace record) ∧ p.next (.trace record) r = p)
    (notes : List String) (run : Run) :
    ((notes.forM fun note => request (.trace ⟨.sandbox, 1, note⟩) : RunM Unit).from run).Follows
      logs (fun p' r => p' = p ∧ r = (.ok (), run)) p := by
  induction notes with
  | nil => exact ⟨rfl, rfl⟩
  | cons note rest ih =>
      refine ⟨(hp _ ()).1, fun r => ?_⟩
      change Dialogue.Follows _ _ _ ((rest.forM _ : RunM Unit).from run)
      rw [(hp _ r).2]
      exact ih

/-- Once the sandbox has been ensured, the run knows that it is prepared. -/
theorem ensureEngine_follows {p : EnginePhase} (hp : p.isResting) (run : Run) :
    (ensureEngine.from run).Follows logs
      (fun p' r => p'.isResting ∧ (r.1 = .ok () → p' = .ready)) p := by
  rw [ensureEngine, from_request_bind]
  have hallows : p.Allows logs .engineState := by
    cases p with
    | rest => exact .inr rfl
    | ready => exact .inr (.inl rfl)
    | _ => cases hp
  have hnext (state : Request.Reply .engineState) :
      p.next .engineState state = .ofState state := by
    cases p with
    | rest | ready => rfl
    | _ => cases hp
  refine ⟨hallows, fun state => ?_⟩
  rw [hnext]
  cases state with
  | absent => exact ⟨rfl, nofun⟩
  | ready => exact ⟨rfl, fun _ => rfl⟩
  | cold =>
      -- the announcement and the preparation
      refine ⟨rfl, fun _ => ⟨rfl, fun boot => ?_⟩⟩
      obtain ⟨notes, f | a⟩ := boot
      · refine from_bind_follows (p := .rest)
          (notes_follows (fun _ _ => ⟨by exact .inl trivial, rfl⟩) notes run) ?_ ?_
        · rintro _ e after ⟨-, hr⟩
          cases hr
        · rintro _ _ after ⟨rfl, -⟩
          exact ⟨rfl, nofun⟩
      · refine from_bind_follows (p := .booted)
          (notes_follows (fun _ _ => ⟨by exact .inr ⟨_, rfl⟩, rfl⟩) notes run) ?_ ?_
        · rintro _ e after ⟨-, hr⟩
          cases hr
        · rintro _ _ after ⟨rfl, -⟩
          exact ⟨.inl rfl, fun _ => ⟨rfl, fun _ => rfl⟩⟩

theorem writeOutput_keeps_apart (key : String) (v : Value) :
    (writeOutput key v).Keeps (fun _ => True) (apart logs) fun _ => True := by
  have h := covers_apart logs
  refine .bind h (.modify fun _ => trivial) fun _ _ => ?_
  refine .bind h (.modify fun _ => trivial) fun _ _ => ?_
  exact .bind h (lift_keeps h v.literal_failsIn) fun _ _ => trace_keeps h _ _

theorem perform_keeps_apart (activity : Activity) :
    (perform activity).Keeps (fun _ => True) (apart logs) fun _ => True := by
  have h := covers_apart logs
  induction activity with
  | finish result => exact .pure h trivial
  | read key next ih =>
      refine .bind h (.attempt (readInput_keeps h key)) fun input _ => ?_
      cases input with
      | ok v => exact .bind h (.request h trivial) fun _ _ => ih _
      | error f => exact ih _
  | write key value next ih =>
      exact .bind h (.attempt (writeOutput_keeps_apart key value)) fun written _ => ih written
  | note message next ih => exact .bind h (.request h trivial) fun _ _ => ih

theorem execute_follows (code : String) : (execute code).Follows logs := by
  intro run p hp
  refine from_bind_follows (ensureEngine_follows hp run) (fun _ _ _ h => h.1) ?_
  rintro _ _ between ⟨-, hready⟩
  obtain rfl := hready rfl
  have hresolve := (resolve_keeps (covers_apart logs) code between).follows (p := .ready) rfl
  refine from_bind_follows hresolve (fun _ _ _ h => by rw [h.1]; rfl) ?_
  rintro _ code after ⟨rfl, -⟩
  -- the code runs, and from there on the run rests
  refine ⟨.inr (.inr ⟨code, rfl⟩), fun activity => ?_⟩
  have hperform : (perform activity).Follows logs := .of_keeps (perform_keeps_apart activity)
  refine hperform.bind (fun result => ?_) after .ready rfl
  have h := covers_apart logs
  cases result with
  | ok v => exact .of_keeps (.modify fun _ => trivial)
  | error f => exact .of_keeps (.fail h trivial)

/-! ## Commands and blocks -/

/-- The lines that a run logs by itself are among `logs`. -/
structure AllowsOwn (logs : String → Prop) : Prop where
  asking : logs "Asking AI..."
  registered : ∀ agent, logs ("Agent Registered: " ++ agent)
  thinking : ∀ agent, logs ("Agent " ++ agent ++ " is thinking...")

theorem log_keeps_apart (hlogs : ∀ line, logs line) (message : String) :
    (dispatch (.log message)).Keeps (fun _ => True) (apart logs) fun _ => True := by
  have h := covers_apart logs
  refine .bind h (trace_keeps h _ _) fun _ _ => ?_
  exact .bind h (resolve_keeps h message) fun line _ => .trivially (.request h (hlogs line))

theorem runAgent_keeps_apart (hown : AllowsOwn logs) (agent prompt : String) :
    (dispatch (.runAgent agent prompt)).Keeps (fun _ => True) (apart logs) fun _ => True := by
  have h := covers_apart logs
  refine .bind h (trace_keeps h _ _) fun _ _ => ?_
  refine .bind h (resolve_keeps h _) fun prompt _ => .bind h (.get h) fun run _ => ?_
  cases Command.nonempty? (run.agents.get? agent) with
  | none => exact failCommand_keeps h _ _
  | some instruction =>
      refine .bind h (.request h (hown.thinking agent)) fun _ _ => ?_
      refine .bind h (generate_keeps h trivial fun _ => rfl) fun _ _ => ?_
      exact .modify fun _ => trivial

/-- Carrying out a command follows the phases; only one that runs code goes through them, and only
    one that logs may log any line. -/
theorem dispatch_follows (hown : AllowsOwn logs) {c : Command}
    (hlogs : c.name = "log" → ∀ line, logs line) : (dispatch c).Follows logs := by
  have h := covers_apart logs
  cases c with
  | log message => exact .of_keeps (log_keeps_apart (hlogs rfl) message)
  | runAgent agent prompt => exact .of_keeps (runAgent_keeps_apart hown agent prompt)
  | execute code => exact .bind (.of_keeps (trace_keeps h _ _)) fun _ => execute_follows code
  | _ =>
      refine .of_keeps (dispatch_keeps h _ ⟨fun q hq => ?_, fun _ _ _ => trivial⟩)
      cases q <;> trivial

theorem register_keeps_apart (hown : AllowsOwn logs) (agent : Option String) :
    (register agent).Keeps (fun _ => True) (apart logs) fun _ => True := by
  have h := covers_apart logs
  refine .bind h (.get h) fun run _ => ?_
  split
  · refine .bind h (.modify fun _ => trivial) fun _ _ => ?_
    exact .trivially (.request h (hown.registered _))
  · exact .fail h trivial

/-- A step follows the phases, and only a log call may log any line. -/
theorem act_follows (hown : AllowsOwn logs) {action : Script.Action}
    (hlogs : action.command? = some "log" → ∀ line, logs line) : (act action).Follows logs := by
  have h := covers_apart logs
  cases action with
  | callAgent agent arguments =>
      have hname : "runAI_Agent" ≠ "log" := by decide
      exact dispatch_follows hown fun hlog => absurd hlog hname
  | callCommand name arguments =>
      intro run p hp
      have hcall := Keeps.lift h (.all (Command.ofCall name arguments)) run
      refine from_bind_follows (hcall.follows hp) (fun _ _ _ hend => hend.1 ▸ hp) ?_
      rintro _ c after ⟨rfl, hend⟩
      have hname : c.name = name := Command.ofCall_name (hend.value c rfl)
      refine dispatch_follows hown (fun hlog => ?_) after _ hp
      exact hlogs (congrArg some (hname.symm.trans hlog))
  | register agent => exact .of_keeps (register_keeps_apart hown agent)
  | override | keep | nothing =>
      exact .of_keeps (act_keeps h _ ⟨fun q hq => hq.elim, fun _ _ _ => trivial⟩)

theorem step_follows (hown : AllowsOwn logs) {s : Script.Step}
    (hlogs : s.action.command? = some "log" → ∀ line, logs line) : (step s).Follows logs :=
  .bind (.of_keeps (trace_keeps (covers_apart logs) _ _)) fun _ => act_follows hown hlogs

theorem produceAnswer_keeps_apart (hown : AllowsOwn logs) (blocks : Script.Blocks) :
    (produceAnswer blocks).Keeps (fun _ => True) (apart logs) fun _ => True := by
  have h := covers_apart logs
  unfold produceAnswer
  split
  · exact .bind h (resolve_keeps h _) fun _ _ => .modify fun _ => trivial
  · refine .bind h (resolve_keeps h _) fun prompt _ => ?_
    refine .bind h (.request h hown.asking) fun _ _ => ?_
    refine .bind h (generate_keeps h trivial fun _ => rfl) fun _ _ => ?_
    exact .modify fun _ => trivial
  · exact .pure h trivial

/-! ## Scripts -/

/-- No line that a run logs by itself is the announcement. -/
theorem allowsOwn_ne_bootLine : AllowsOwn (· ≠ bootLine) := by
  have hne {first rest : String} (hfirst : first.toList.head? = some 'A') :
      first ++ rest ≠ bootLine := by
    intro h
    have hhead := congrArg (fun line => line.toList.head?) h
    rw [String.toList_append, List.head?_append, hfirst, Option.some_or] at hhead
    exact absurd hhead (by decide)
  refine ⟨by decide, fun agent => hne rfl, fun agent => ?_⟩
  rw [String.append_assoc]
  exact hne rfl

/-- Lines of all kinds. -/
def anyLine : String → Prop :=
  fun _ => True

theorem allowsOwn_anyLine : AllowsOwn anyLine :=
  ⟨trivial, fun _ => trivial, fun _ => trivial⟩

theorem runSteps_follows (steps : List Script.Step) : (runSteps steps).Follows anyLine := by
  induction steps with
  | nil => exact .of_keeps (.pure (covers_apart anyLine) trivial)
  | cons s rest ih =>
      exact .bind (step_follows allowsOwn_anyLine fun _ _ => trivial) fun _ => ih

theorem runBlock?_follows (announcement : String) (block : Option String) :
    (runBlock? announcement block).Follows anyLine := by
  have h := covers_apart anyLine
  unfold runBlock?
  cases Command.nonempty? block with
  | none => exact .of_keeps (.pure h trivial)
  | some text =>
      exact .bind (.of_keeps (trace_keeps h _ _)) fun _ => runSteps_follows (Script.steps text)

theorem phases_follows (source : String) : (phases source).Follows anyLine := by
  have h := covers_apart anyLine
  refine .bind (.of_keeps (trace_keeps h _ _)) fun _ => .bind (runBlock?_follows _ _) fun _ => ?_
  refine .bind (.of_keeps (produceAnswer_keeps_apart allowsOwn_anyLine _)) fun _ => ?_
  refine .bind (runBlock?_follows _ _) fun _ => ?_
  exact .of_keeps (postAnswer_keeps h (fun _ => trivial) fun _ => trivial)

end RunM

theorem Run.conclude_keeps_apart (logs : String → Prop) (r : Except Failure Unit × Run) :
    (Run.conclude r).Keeps (fun _ => True) (fun q => q.IsApart logs) fun _ => True := by
  obtain ⟨f | _, run⟩ := r
  · change Dialogue.Keeps _ _ _ (if f.isOrdinary then _ else _)
    split
    · exact ⟨trivial, fun _ _ => ⟨trivial, fun _ _ => trivial⟩⟩
    · trivial
  · trivial

/-- A script follows the phases from the beginning to the end. -/
theorem runScript_follows (source : String) (prompt : Value) :
    (runScript source prompt).Follows RunM.anyLine (fun p _ => p.isResting) .rest := by
  rw [runScript_eq_conclude]
  refine (RunM.phases_follows source (.start prompt) .rest rfl).bind fun p r hp => ?_
  have hconclude := (Run.conclude_keeps_apart RunM.anyLine r).follows hp
  exact hconclude.mono fun p' _ hend => hend.1 ▸ hp

end AgentScript
