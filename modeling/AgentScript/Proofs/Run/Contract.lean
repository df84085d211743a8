import AgentScript.Proofs.Context.Failure
import AgentScript.Proofs.Run.Action

set_option autoImplicit false

/-! # What dialogues keep to

A contract says which requests a dialogue may put and how it may end, provided that its
collaborators fail in expected ways only (`Dialogue.Keeps`). Contracts are proved piece by piece:
what an action keeps to follows from what its parts keep to (`RunM.Keeps.bind`). -/

namespace AgentScript

variable {α β : Type}

/-! ## Expected failures -/

/-- An activity that ends with no failures but those in `fails`, as long as its reads and writes
    fail with no others. -/
def Activity.FailsIn (fails : Failure → Prop) : Activity → Prop
  | .finish result => AgentScript.FailsIn fails result
  | .read _ next => ∀ r, AgentScript.FailsIn fails r → (next r).FailsIn fails
  | .write _ _ next => ∀ r, AgentScript.FailsIn fails r → (next r).FailsIn fails
  | .note _ next => next.FailsIn fails

theorem Activity.failsIn_all (activity : Activity) : activity.FailsIn fun _ => True := by
  induction activity with
  | finish result => exact .all result
  | read key next ih => exact fun r _ => ih r
  | write key value next ih => exact fun r _ => ih r
  | note message next ih => exact ih

/-- A reply that brings no failures but those in `fails`. -/
def Request.FailsIn (fails : Failure → Prop) : (q : Request) → q.Reply → Prop
  | .render _, r | .generate _ _, r => AgentScript.FailsIn fails r
  | .boot, r => AgentScript.FailsIn fails r.result
  | .runCode _, activity => activity.FailsIn fails
  | _, _ => True

theorem Request.failsIn_all (q : Request) (r : q.Reply) : q.FailsIn (fun _ => True) r := by
  cases q with
  | render | generate => exact .all r
  | boot => exact .all r.result
  | runCode => exact Activity.failsIn_all r
  | _ => trivial

/-! ## Contracts of dialogues -/

/-- A dialogue that puts requests in `asks` only and ends as `ends` says, provided that the replies
    bring no failures but those in `fails`. -/
def Dialogue.Keeps (fails : Failure → Prop) (asks : Request → Prop) (ends : α → Prop) :
    Dialogue α → Prop
  | .done a => ends a
  | .ask q next => asks q ∧ ∀ r, q.FailsIn fails r → (next r).Keeps fails asks ends

variable {fails : Failure → Prop} {asks : Request → Prop}

theorem Dialogue.Keeps.mono {ends more : α → Prop} {d : Dialogue α} (h : d.Keeps fails asks ends)
    (hends : ∀ a, ends a → more a) : d.Keeps fails asks more := by
  induction d with
  | done a => exact hends a h
  | ask q next ih => exact ⟨h.1, fun r hr => ih r (h.2 r hr)⟩

theorem Dialogue.Keeps.bind {ends : α → Prop} {ends' : β → Prop} {d : Dialogue α}
    {f : α → Dialogue β} (h : d.Keeps fails asks ends)
    (hf : ∀ a, ends a → (f a).Keeps fails asks ends') : (d >>= f).Keeps fails asks ends' := by
  induction d with
  | done a => exact hf a h
  | ask q next ih => exact ⟨h.1, fun r hr => ih r (h.2 r hr)⟩

/-! ## Contracts of actions -/

/-- What an action may do: the requests that it may put, and how it may change the run. -/
structure Footprint where
  asks : Request → Prop
  moves : Run → Run → Prop

/-- The first footprint allows no more than the second one. -/
structure Footprint.Within (inner outer : Footprint) : Prop where
  asks : ∀ q, inner.asks q → outer.asks q
  moves : ∀ run after, inner.moves run after → outer.moves run after

/-- How an action may end that began in the state `run`: with a value in `gives` or a failure in
    `fails`, and in a state that it may move to. -/
structure RunM.Ends (fails : Failure → Prop) (foot : Footprint) (gives : α → Prop) (run : Run)
    (r : Except Failure α × Run) : Prop where
  moves : foot.moves run r.2
  value : ∀ a, r.1 = .ok a → gives a
  failure : FailsIn fails r.1

/-- An action that stays within a footprint from every state. -/
def RunM.Keeps (fails : Failure → Prop) (foot : Footprint) (gives : α → Prop) (x : RunM α) :
    Prop :=
  ∀ run, (x.from run).Keeps fails foot.asks (Ends fails foot gives run)

/-- A footprint that leaves a run its own failures and its trace, and composes. -/
structure Footprint.Covers (foot : Footprint) (fails : Failure → Prop) : Prop where
  own : ∀ f, IsOrdinary f → fails f
  trace : ∀ record, foot.asks (.trace record)
  refl : ∀ run, foot.moves run run
  trans : ∀ {run between after}, foot.moves run between → foot.moves between after →
    foot.moves run after

namespace RunM

variable {foot : Footprint} {gives : α → Prop} {gives' : β → Prop} {x : RunM α}

theorem Keeps.trivially (hx : x.Keeps fails foot gives) : x.Keeps fails foot fun _ => True :=
  fun run => (hx run).mono fun _ hr => ⟨hr.moves, fun _ _ => trivial, hr.failure⟩

variable (h : foot.Covers fails)

include h

namespace Keeps

theorem bind {f : α → RunM β} (hx : x.Keeps fails foot gives)
    (hf : ∀ a, gives a → (f a).Keeps fails foot gives') : (x >>= f).Keeps fails foot gives' := by
  intro run
  rw [from_bind]
  refine (hx run).bind fun r hr => ?_
  obtain ⟨e | a, between⟩ := r
  · exact ⟨hr.moves, fun _ he => (nomatch he), hr.failure⟩
  · exact (hf a (hr.value a rfl) between).mono fun r' hr' =>
      ⟨h.trans hr.moves hr'.moves, hr'.value, hr'.failure⟩

theorem pure {a : α} (ha : gives a) : (pure a : RunM α).Keeps fails foot gives :=
  fun run => ⟨h.refl run, fun _ hr => by cases hr; exact ha, trivial⟩

theorem fail {f : Failure} (hf : fails f) : (fail f : RunM α).Keeps fails foot gives :=
  fun run => ⟨h.refl run, fun _ hr => (nomatch hr), hf⟩

theorem get : (get : RunM Run).Keeps fails foot fun _ => True :=
  fun run => ⟨h.refl run, fun _ _ => trivial, trivial⟩

omit h in
theorem modify {f : Run → Run} (hf : ∀ run, foot.moves run (f run)) :
    (modify f : RunM Unit).Keeps fails foot fun _ => True :=
  fun run => ⟨hf run, fun _ _ => trivial, trivial⟩

theorem request {q : Request} (hq : foot.asks q) :
    (request q).Keeps fails foot (q.FailsIn fails) :=
  fun run => ⟨hq, fun _ hr => ⟨h.refl run, fun _ ha => by cases ha; exact hr, trivial⟩⟩

theorem lift {r : Except Failure α} (hr : FailsIn fails r) :
    (lift r).Keeps fails foot fun a => r = .ok a := by
  intro run
  rw [from_lift]
  exact ⟨h.refl run, fun _ ha => ha, hr⟩

omit h in
theorem attempt (hx : x.Keeps fails foot gives) :
    (attempt x).Keeps fails foot (FailsIn fails) := by
  intro run
  rw [from_attempt]
  exact (hx run).bind fun r hr => ⟨hr.moves, fun _ ha => by cases ha; exact hr.failure, trivial⟩

theorem forM {γ : Type} (l : List γ) {f : γ → RunM PUnit}
    (hf : ∀ c, (f c).Keeps fails foot fun _ => True) :
    (l.forM f).Keeps fails foot fun _ => True := by
  induction l with
  | nil => exact .pure h trivial
  | cons c rest ih => exact .bind h (hf c) fun _ _ => ih

end Keeps

/-! ## The parts of actions -/

theorem trace_keeps (detail : Nat) (message : String) :
    (trace detail message).Keeps fails foot fun _ => True :=
  .request h (h.trace _)

theorem lift_keeps {r : Except Failure α} (hr : FailsIn IsOrdinary r) :
    (lift r).Keeps fails foot fun _ => True :=
  .trivially (.lift h (hr.mono h.own))

theorem resolve_keeps (text : String) : (resolve text).Keeps fails foot fun _ => True :=
  .bind h (.get h) fun run _ => lift_keeps h (run.context.resolve_failsIn text)

theorem resolve?_keeps (text : Option String) : (resolve? text).Keeps fails foot fun _ => True :=
  .bind h (.get h) fun run _ => lift_keeps h (run.context.resolve_failsIn (text.getD ""))

theorem failCommand_keeps (name : String) (fault : CommandFault) :
    (failCommand name fault : RunM α).Keeps fails foot gives :=
  .fail h (h.own _ rfl)

theorem require_keeps (name : String) (holds : Bool) (fault : CommandFault) :
    (require name holds fault).Keeps fails foot fun _ => True := by
  unfold require
  split
  · exact .pure h trivial
  · exact failCommand_keeps h name fault

theorem awaited_failsIn {r : Except Failure α} (hr : FailsIn fails r) :
    FailsIn fails (r.mapError Failure.awaited) := by
  cases r with
  | ok a => trivial
  | error f =>
      change fails f.awaited
      unfold Failure.awaited
      split
      · exact h.own _ rfl
      · exact hr

theorem generate_keeps {prompt : String} {instruction : Option String}
    (hasks : foot.asks (.generate prompt instruction)) {refused : String → Failure}
    (hrefused : ∀ reply, IsOrdinary (refused reply)) :
    (generate prompt instruction refused).Keeps fails foot fun _ => True := by
  refine .bind h (.request h hasks) fun r hr => ?_
  refine .bind h (.lift h (awaited_failsIn h hr)) fun reply _ => ?_
  split
  · exact .fail h (h.own _ (hrefused reply))
  · exact .pure h trivial

end RunM

end AgentScript
