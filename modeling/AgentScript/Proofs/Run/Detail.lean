import AgentScript.Proofs.Run.Retrace
import AgentScript.Session

set_option autoImplicit false

/-! # Levels of detail

How closely scripts are traced says nothing about what they do: at every level of detail they end
the same, leave the same workspace and put the same requests, and a trace at a lower level is what
remains of the trace at a higher one when the records of too much detail are taken out
(`Session.scripts_tracedAt`). The two worlds are kept side by side: `World.CoarserThan` holds before
and after every request (`answer`), so over a whole dialogue (`play`), a script and a series of
scripts. -/

namespace AgentScript

variable {α : Type}

/-! ## Traces -/

/-- The first trace is of a lower level, and holds the records of the second one that are kept
    there. -/
structure Trace.CoarserThan (t t' : Trace) : Prop where
  level : t.level ≤ t'.level
  records : t.records = t'.records.filter fun r => r.detail ≤ t.level

theorem Trace.level_write (t : Trace) (r : TraceRecord) : (t.write r).level = t.level := by
  unfold write
  split <;> rfl

theorem Trace.CoarserThan.write {t t' : Trace} (h : t.CoarserThan t') (r : TraceRecord) :
    (t.write r).CoarserThan (t'.write r) := by
  obtain ⟨hlevel, hrecords⟩ := h
  refine ⟨by rwa [level_write, level_write], ?_⟩
  rw [level_write]
  unfold Trace.write
  by_cases hlow : r.detail ≤ t.level
  · -- what is kept at the lower level is kept at the higher one
    have hhigh : r.detail ≤ t'.level := Nat.le_trans hlow hlevel
    simp only [if_pos hlow, if_pos hhigh]
    rw [List.filter_append, ← hrecords, List.filter_singleton, decide_eq_true hlow]
    rfl
  · rw [if_neg hlow, hrecords]
    split
    · -- a record that is kept at the higher level only
      show _ = (t'.records ++ [r]).filter _
      rw [List.filter_append, List.filter_singleton, decide_eq_false hlow]
      exact (List.append_nil _).symm
    · rfl

theorem Trace.CoarserThan.recordIn {t t' : Trace} (h : t.CoarserThan t') (q : Request) :
    (q.recordIn t).CoarserThan (q.recordIn t') := by
  cases q with
  | trace record => exact h.write record
  | logAction message => exact h.write _
  | _ => exact h

/-! ## Worlds -/

namespace World

/-- The second world is the first one, traced at no lower level of detail. -/
def CoarserThan (w w' : World) : Prop :=
  ∃ t, w' = { w with trace := t } ∧ w.trace.CoarserThan t

/-- Both worlds give the same reply, and the trace of one stays coarser than that of the other. -/
theorem CoarserThan.answer (c : Collaborators) {w w' : World} (h : w.CoarserThan w')
    (q : Request) :
    (w.answer c q).1 = (w'.answer c q).1 ∧ (w.answer c q).2.CoarserThan (w'.answer c q).2 := by
  obtain ⟨t, rfl, ht⟩ := h
  rw [answer_withTrace c w t q]
  refine ⟨rfl, q.recordIn t, rfl, ?_⟩
  rw [answer_trace]
  exact ht.recordIn q

/-- The records of the coarser trace are among those of the other one, in the same order. -/
theorem CoarserThan.sublist {w w' : World} (h : w.CoarserThan w') :
    w.trace.records.Sublist w'.trace.records := by
  obtain ⟨t, rfl, ht⟩ := h
  rw [ht.records]
  exact List.filter_sublist

theorem CoarserThan.play (c : Collaborators) {w w' : World} (h : w.CoarserThan w')
    (d : Dialogue α) :
    (w.play c d).1 = (w'.play c d).1 ∧ (w.play c d).2.CoarserThan (w'.play c d).2 := by
  induction d generalizing w w' with
  | done a => exact ⟨rfl, h⟩
  | ask q next ih =>
      obtain ⟨hreply, hafter⟩ := h.answer c q
      rw [play_ask, play_ask, ← hreply]
      exact ih _ hafter

end World

/-! ## Sessions -/

namespace Session

/-- Run scripts one after the other, each with its collaborators and a prompt. -/
def scripts (s : Session) :
    List (Collaborators × String × String) → List (Except Failure Unit) × Session
  | [] => ([], s)
  | (c, source, prompt) :: rest =>
    let (outcome, next) := s.script c source prompt
    let (outcomes, last) := next.scripts rest
    (outcome :: outcomes, last)

theorem scripts_cons (s : Session) (c : Collaborators) (source prompt : String)
    (rest : List (Collaborators × String × String)) :
    s.scripts ((c, source, prompt) :: rest)
      = ((s.script c source prompt).1 :: ((s.script c source prompt).2.scripts rest).1,
        ((s.script c source prompt).2.scripts rest).2) :=
  rfl

/-- The second session has the same runs, in a world that is traced at no lower level of detail. -/
structure CoarserThan (s s' : Session) : Prop where
  world : s.world.CoarserThan s'.world
  runs : s.runs = s'.runs

theorem script_eq (c : Collaborators) (s : Session) (source prompt : String) :
    s.script c source prompt
      = ((s.world.play c (runScript source (.str prompt))).1.1,
        ⟨(s.world.play c (runScript source (.str prompt))).2,
          s.runs ++ [(s.world.play c (runScript source (.str prompt))).1.2]⟩) :=
  rfl

theorem CoarserThan.script (c : Collaborators) {s s' : Session} (h : s.CoarserThan s')
    (source prompt : String) :
    (s.script c source prompt).1 = (s'.script c source prompt).1
      ∧ (s.script c source prompt).2.CoarserThan (s'.script c source prompt).2 := by
  obtain ⟨hresult, hworld⟩ := h.world.play c (runScript source (.str prompt))
  rw [script_eq, script_eq, hresult, h.runs]
  exact ⟨rfl, hworld, rfl⟩

theorem CoarserThan.scripts {s s' : Session} (h : s.CoarserThan s')
    (jobs : List (Collaborators × String × String)) :
    (s.scripts jobs).1 = (s'.scripts jobs).1
      ∧ (s.scripts jobs).2.CoarserThan (s'.scripts jobs).2 := by
  induction jobs generalizing s s' with
  | nil => exact ⟨rfl, h⟩
  | cons job rest ih =>
      obtain ⟨c, source, prompt⟩ := job
      obtain ⟨houtcome, hnext⟩ := h.script c source prompt
      obtain ⟨houtcomes, hlast⟩ := ih hnext
      rw [scripts_cons, scripts_cons, houtcome, houtcomes]
      exact ⟨rfl, hlast⟩

end Session

end AgentScript
