import AgentScript.Proofs.Run.World
import Mathlib.Data.List.Forall2

set_option autoImplicit false

/-! # Dialogues that differ in their trace

Nothing that a run asks for depends on the trace (`answer_withTrace`). So two dialogues that put the
same requests, up to the records that they leave, end alike and lead to worlds that are alike up to
their traces (`play_retraced`). Which records may stand for each other is a parameter. Leaving out
all records says less about the trace and asks for less: the same requests in the end, however many
records are left between them (`play_untraced`). -/

namespace AgentScript

variable {α β : Type} {same : TraceRecord → TraceRecord → Prop}

/-! ## Traces -/

/-- The second trace is the first one with records replaced by `same` ones. -/
structure Trace.Retraced (same : TraceRecord → TraceRecord → Prop) (t t' : Trace) : Prop where
  level : t'.level = t.level
  records : List.Forall₂ same t.records t'.records

theorem Trace.Retraced.refl (hsame : ∀ r, same r r) (t : Trace) : t.Retraced same t :=
  ⟨rfl, List.forall₂_same.2 fun r _ => hsame r⟩

/-- Records of the same detail are kept or left out together. -/
theorem Trace.Retraced.write {t t' : Trace} (h : t.Retraced same t') {r r' : TraceRecord}
    (hr : same r r') (hdetail : r'.detail = r.detail) :
    (t.write r).Retraced same (t'.write r') := by
  unfold Trace.write
  rw [hdetail, h.level]
  split
  · exact ⟨rfl, List.rel_append h.records (.cons hr .nil)⟩
  · exact h

/-! ## Worlds -/

/-- The trace after a request. -/
def Request.recordIn (t : Trace) : Request → Trace
  | .trace record => t.write record
  | .logAction message => t.write ⟨.actions, 1, message⟩
  | _ => t

theorem World.answer_withTrace (c : Collaborators) (w : World) (t : Trace) (q : Request) :
    World.answer c { w with trace := t } q
      = ((w.answer c q).1, { (w.answer c q).2 with trace := q.recordIn t }) := by
  cases q <;> rfl

theorem World.answer_trace (c : Collaborators) (w : World) (q : Request) :
    (w.answer c q).2.trace = q.recordIn w.trace :=
  congrArg (fun r => r.2.trace) (w.answer_withTrace c w.trace q)

/-- The second world is the first one up to its trace. -/
def World.Retraced (same : TraceRecord → TraceRecord → Prop) (w w' : World) : Prop :=
  ∃ t, w' = { w with trace := t } ∧ w.trace.Retraced same t

theorem World.Retraced.refl (hsame : ∀ r, same r r) (w : World) : w.Retraced same w :=
  ⟨w.trace, rfl, .refl hsame w.trace⟩

theorem Trace.Retraced.recordIn (hsame : ∀ r, same r r) {t t' : Trace} (h : t.Retraced same t')
    (q : Request) : (q.recordIn t).Retraced same (q.recordIn t') := by
  cases q with
  | trace record => exact h.write (hsame record) rfl
  | logAction message => exact h.write (hsame _) rfl
  | _ => exact h

/-- Worlds alike give the same replies and stay alike. -/
theorem World.Retraced.answer (hsame : ∀ r, same r r) (c : Collaborators) {w w' : World}
    (h : w.Retraced same w') (q : Request) :
    (w'.answer c q).1 = (w.answer c q).1 ∧ (w.answer c q).2.Retraced same (w'.answer c q).2 := by
  obtain ⟨t, rfl, ht⟩ := h
  rw [w.answer_withTrace c t q]
  refine ⟨rfl, q.recordIn t, rfl, ?_⟩
  rw [answer_trace]
  exact ht.recordIn hsame q

/-! ## Dialogues -/

/-- The second dialogue does what the first one does, up to the records of the trace, where `same`
    ones may stand for each other. -/
inductive Dialogue.Retraced (same : TraceRecord → TraceRecord → Prop) :
    Dialogue α → Dialogue α → Prop where
  | done (a : α) : Retraced same (.done a) (.done a)
  | ask (q : Request) {next next' : q.Reply → Dialogue α}
      (h : ∀ r, Retraced same (next r) (next' r)) : Retraced same (.ask q next) (.ask q next')
  | trace {r r' : TraceRecord} {next next' : Unit → Dialogue α} (hr : same r r')
      (hdetail : r'.detail = r.detail) (h : Retraced same (next ()) (next' ())) :
      Retraced same (.ask (.trace r) next) (.ask (.trace r') next')

theorem Dialogue.Retraced.refl (d : Dialogue α) : d.Retraced same d := by
  induction d with
  | done a => exact .done a
  | ask q next ih => exact .ask q ih

theorem Dialogue.Retraced.bind {d d' : Dialogue α} {f f' : α → Dialogue β}
    (h : d.Retraced same d') (hf : ∀ a, (f a).Retraced same (f' a)) :
    (d >>= f).Retraced same (d' >>= f') := by
  induction h with
  | done a => exact hf a
  | ask q _ ih => exact .ask q ih
  | trace hr hdetail _ ih => exact .trace hr hdetail ih

/-- Dialogues alike, played in worlds alike, end the same and lead to worlds alike. -/
theorem World.play_retraced (hsame : ∀ r, same r r) (c : Collaborators) {d d' : Dialogue α}
    (hd : d.Retraced same d') {w w' : World} (hw : w.Retraced same w') :
    (w'.play c d').1 = (w.play c d).1 ∧ (w.play c d).2.Retraced same (w'.play c d').2 := by
  induction hd generalizing w w' with
  | done a => exact ⟨rfl, hw⟩
  | ask q _ ih =>
      obtain ⟨hreply, hafter⟩ := hw.answer hsame c q
      rw [World.play_ask, World.play_ask, hreply]
      exact ih _ hafter
  | trace hr hdetail _ ih =>
      -- records of the same detail are both kept or both dropped
      obtain ⟨t, rfl, ht⟩ := hw
      exact ih ⟨_, rfl, ht.write hr hdetail⟩

/-! ## Without the records -/

/-- What a dialogue does besides leaving records. -/
def Dialogue.untraced : Dialogue α → Dialogue α
  | .done a => .done a
  | .ask (.trace _) next => (next ()).untraced
  | .ask q next => .ask q fun r => (next r).untraced

theorem Dialogue.untraced_bind (d : Dialogue α) (f : α → Dialogue β) :
    (d >>= f).untraced = d.untraced >>= fun a => (f a).untraced := by
  induction d with
  | done a => rfl
  | ask q next ih =>
      cases q with
      | trace record => exact ih ()
      | _ => exact congrArg (Dialogue.ask _) (funext ih)

/-- The second world is the first one but for its trace. -/
def World.SameButTrace (w w' : World) : Prop :=
  ∃ t, w' = { w with trace := t }

theorem World.SameButTrace.symm {w w' : World} (h : w.SameButTrace w') : w'.SameButTrace w := by
  obtain ⟨t, rfl⟩ := h
  exact ⟨w.trace, rfl⟩

theorem World.SameButTrace.trans {w w' w'' : World} (h : w.SameButTrace w')
    (h' : w'.SameButTrace w'') : w.SameButTrace w'' := by
  obtain ⟨t, rfl⟩ := h
  obtain ⟨t', rfl⟩ := h'
  exact ⟨t', rfl⟩

/-- Leaving no records does not change how a dialogue ends, or the world besides its trace. -/
theorem World.play_untraced (c : Collaborators) (d : Dialogue α) {w w' : World}
    (h : w.SameButTrace w') :
    (w'.play c d).1 = (w.play c d.untraced).1
      ∧ (w.play c d.untraced).2.SameButTrace (w'.play c d).2 := by
  induction d generalizing w w' with
  | done a => exact ⟨rfl, h⟩
  | ask q next ih =>
      obtain ⟨t, rfl⟩ := h
      rw [play_ask, answer_withTrace]
      cases q with
      | trace record => exact ih () ⟨_, rfl⟩
      | _ => exact ih _ ⟨_, rfl⟩

/-- Dialogues that differ in their records only end alike and lead to worlds that are alike but for
    their traces. -/
theorem World.play_of_untraced_eq (c : Collaborators) (w : World) {d d' : Dialogue α}
    (h : d.untraced = d'.untraced) :
    (w.play c d').1 = (w.play c d).1 ∧ (w.play c d).2.SameButTrace (w.play c d').2 := by
  obtain ⟨hresult, hworld⟩ := w.play_untraced c d ⟨w.trace, rfl⟩
  obtain ⟨hresult', hworld'⟩ := w.play_untraced c d' ⟨w.trace, rfl⟩
  rw [← h] at hresult' hworld'
  exact ⟨hresult'.trans hresult.symm, hworld.symm.trans hworld'⟩

namespace RunM

theorem untraced_bind_congr {x x' : RunM α} {f f' : α → RunM β}
    (hx : ∀ run, (x.from run).untraced = (x'.from run).untraced)
    (hf : ∀ a run, ((f a).from run).untraced = ((f' a).from run).untraced) (run : Run) :
    ((x >>= f).from run).untraced = ((x' >>= f').from run).untraced := by
  rw [from_bind, from_bind, Dialogue.untraced_bind, Dialogue.untraced_bind, hx]
  refine congrArg (Dialogue.bind _) (funext fun r => ?_)
  obtain ⟨e | a, after⟩ := r
  · rfl
  · exact hf a after

theorem untraced_trace_bind (detail : Nat) (message : String) (f : Unit → RunM β) (run : Run) :
    ((trace detail message >>= f).from run).untraced = ((f ()).from run).untraced :=
  rfl

end RunM

end AgentScript
