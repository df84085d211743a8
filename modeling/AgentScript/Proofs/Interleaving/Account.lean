import AgentScript.Proofs.Interleaving.Tracking
import AgentScript.Proofs.Run.Announcement
import Mathlib.Algebra.BigOperators.Group.Finset.Piecewise
import Mathlib.Algebra.Order.BigOperators.Group.Finset

set_option autoImplicit false

/-! # What turns add up to

What a world counts is the sum of what the dialogues that share it have done in their turns
(`World.interleave_counts`). For scripts this says when there are as many announcements as
preparations of the sandbox (`World.runTogether_announces`), and when it is known to be prepared: as
soon as a script that has prepared it goes on (`World.runTogether_engineReady`). -/

namespace AgentScript

variable {α : Type} {logs : String → Prop}

/-! ## Sums over the dialogues -/

namespace World

section

variable {c : Collaborators} {N : World → Nat} {P : Exchange → Bool}
  (hanswer : ∀ w q, N (w.answer c q).2 = N w + [⟨q, (w.answer c q).1⟩].countP P)

include hanswer

theorem turn_counts (pauses : Request → Bool) (w : World) (d : Dialogue α) :
    N (w.turn c pauses d).2 = N w + (w.turnCalls c pauses d).countP P := by
  induction d generalizing w with
  | done a => rfl
  | ask q next ih =>
      rw [turn_ask, turnCalls_ask]
      by_cases hq : pauses q
      · rw [if_pos hq, if_pos hq]
        exact hanswer w q
      · rw [if_neg hq, if_neg hq, ih, hanswer, Nat.add_assoc, ← List.countP_append]
        rfl

/-- A world that counts exchanges of a kind counts those of all the dialogues that share it. -/
theorem interleave_counts (pauses : Request → Bool) (w : World) (schedule : List Nat)
    (ds : List (Dialogue α)) :
    N (w.interleave c pauses schedule ds).2
      = N w + ∑ i ∈ Finset.range ds.length, (w.callsOf c pauses schedule ds i).countP P := by
  induction schedule generalizing w ds with
  | nil => simp [interleave, callsOf]
  | cons j schedule ih =>
      cases hj : ds[j]? with
      | none =>
          rw [interleave_of_none hj, ih]
          simp only [callsOf_of_none hj]
      | some d =>
          have hlength : j ∈ Finset.range ds.length :=
            Finset.mem_range.2 (List.getElem?_eq_some_iff.1 hj).1
          have hcalls (i : Nat) : (w.callsOf c pauses (j :: schedule) ds i).countP P
              = (if j = i then (w.turnCalls c pauses d).countP P else 0)
                + ((w.turn c pauses d).2.callsOf c pauses schedule
                  (ds.set j (w.turn c pauses d).1) i).countP P := by
            rw [callsOf_of_some hj, List.countP_append, apply_ite (List.countP P), List.countP_nil]
          rw [interleave_of_some hj, ih, turn_counts hanswer, List.length_set, Nat.add_assoc]
          simp only [hcalls, Finset.sum_add_distrib]
          rw [Finset.sum_ite_eq, if_pos hlength]

end

variable (c : Collaborators)

theorem answer_actionLog (w : World) (q : Request) :
    (w.answer c q).2.workspace.actionLog = w.workspace.actionLog ++ q.logged := by
  cases q <;> first | rfl | exact (List.append_nil _).symm

theorem count_answer (w : World) (q : Request) :
    (w.answer c q).2.workspace.actionLog.count bootLine
      = w.workspace.actionLog.count bootLine
        + [⟨q, (w.answer c q).1⟩].countP Exchange.announces := by
  rw [answer_actionLog, List.count_append]
  cases q <;> simp [Request.logged, Exchange.announces, List.count_singleton]

theorem countP_isBoot_answer (w : World) (q : Request) :
    (w.answer c q).2.journal.countP Exchange.isBoot
      = w.journal.countP Exchange.isBoot + [⟨q, (w.answer c q).1⟩].countP Exchange.isBoot := by
  rw [answer_journal, List.countP_append]
  cases q <;> simp [isJournaled, Exchange.isBoot]

end World

/-! ## Going on after a preparation -/

theorem Exchange.isBoot_of_hasBooted {e : Exchange} (h : e.hasBooted) : e.isBoot = true := by
  obtain ⟨q, r⟩ := e
  cases q with
  | boot => rfl
  | _ => cases h

/-- Exchanges the last of which has prepared the sandbox. -/
def EndsBooted (calls : List Exchange) : Prop :=
  ∃ earlier e, calls = earlier ++ [e] ∧ e.hasBooted

/-- Exchanges that go on after one of them has prepared the sandbox. -/
def GoesOn (calls : List Exchange) : Prop :=
  ∃ earlier e next later, calls = earlier ++ e :: next :: later ∧ e.hasBooted

theorem EndsBooted.append_left {calls : List Exchange} (h : EndsBooted calls)
    (before : List Exchange) : EndsBooted (before ++ calls) := by
  obtain ⟨earlier, e, rfl, hbooted⟩ := h
  exact ⟨before ++ earlier, e, (List.append_assoc _ _ _).symm, hbooted⟩

theorem EndsBooted.tail {e : Exchange} {later : List Exchange} (h : EndsBooted (e :: later)) :
    later = [] ∧ e.hasBooted ∨ EndsBooted later := by
  obtain ⟨_ | ⟨first, earlier⟩, last, hcalls, hbooted⟩ := h
  · obtain ⟨rfl, rfl⟩ := List.cons.inj hcalls
    exact .inl ⟨rfl, hbooted⟩
  · obtain ⟨rfl, rfl⟩ := List.cons.inj hcalls
    exact .inr ⟨earlier, last, rfl, hbooted⟩

theorem goesOn_cons {e : Exchange} {later : List Exchange} :
    GoesOn (e :: later) ↔ e.hasBooted ∧ later ≠ [] ∨ GoesOn later := by
  constructor
  · rintro ⟨_ | ⟨first, earlier⟩, e', next, rest, hcalls, hbooted⟩
    · obtain ⟨rfl, rfl⟩ := List.cons.inj hcalls
      exact .inl ⟨hbooted, List.cons_ne_nil _ _⟩
    · obtain ⟨rfl, rfl⟩ := List.cons.inj hcalls
      exact .inr ⟨earlier, e', next, rest, rfl, hbooted⟩
  · rintro (⟨hbooted, hlater⟩ | ⟨earlier, e', next, rest, rfl, hbooted⟩)
    · obtain ⟨next, rest, rfl⟩ := List.exists_cons_of_ne_nil hlater
      exact ⟨[], e, next, rest, rfl, hbooted⟩
    · exact ⟨e :: earlier, e', next, rest, rfl, hbooted⟩

namespace EnginePhase

variable {p : EnginePhase}

theorem next_ne_booted_of_isResting (hp : p.isResting) {q : Request} (h : p.Allows logs q)
    (r : q.Reply) : p.next q r ≠ .booted := by
  obtain hapart | rfl | ⟨code, rfl⟩ := isApart_or_of_isResting hp h
  · rw [next_of_isApart hp hapart]
    rintro rfl
    cases hp
  · cases p <;> cases r <;> first | decide | cases hp
  · cases p with
    | rest | ready => exact fun hbooted => nomatch hbooted
    | _ => cases hp

/-- A run gets to the phase in which a preparation has not been noted by having one succeed. -/
theorem next_eq_booted_iff (hp : p ≠ .booted) {e : Exchange} (h : p.Allows logs e.request) :
    p.next e.request e.reply = .booted ↔ e.hasBooted := by
  by_cases hresting : p.isResting
  · refine iff_of_false (next_ne_booted_of_isResting hresting h e.reply) fun hbooted => ?_
    have hnot := (pending_next_of_isResting hresting h).1
    exact absurd (hnot.symm.trans (Exchange.isBoot_of_hasBooted hbooted)) (by decide)
  · obtain ⟨q, r⟩ := e
    cases p with
    | rest | ready => exact absurd rfl hresting
    | booted => exact absurd rfl hp
    | cold =>
        obtain rfl := h
        exact ⟨nofun, nofun⟩
    | announced =>
        obtain rfl := h
        change (if r.result.isOk then booted else rest) = booted ↔ r.result.isOk
        split
        · next hok => exact ⟨fun _ => hok, fun _ => rfl⟩
        · next hnot => exact ⟨nofun, fun hok => absurd hok hnot⟩

/-- Where exchanges end between two turns: the run rests, or the last of them has prepared the
    sandbox. -/
def Ends (p : EnginePhase) (calls : List Exchange) : Prop :=
  (p.after calls).isResting ∨ p.after calls = .booted ∧ EndsBooted calls

theorem Ends.pending {calls : List Exchange} (h : p.Ends calls) : (p.after calls).pending = 0 := by
  rcases h with h | ⟨h, -⟩
  · exact pending_of_isResting h
  · rw [h]
    rfl

theorem Ends.tail {e : Exchange} {later : List Exchange} (h : p.Ends (e :: later)) :
    later = [] ∧ e.hasBooted ∨ (p.next e.request e.reply).Ends later := by
  rcases h with h | ⟨h, hbooted⟩
  · exact .inr (.inl h)
  · exact hbooted.tail.imp_right fun hlater => .inr ⟨h, hlater⟩

theorem Ends.append_left {calls more : List Exchange} (h : (p.after calls).Ends more) :
    p.Ends (calls ++ more) := by
  rw [Ends, after_append]
  exact h.imp_right fun ⟨hafter, hbooted⟩ => ⟨hafter, hbooted.append_left calls⟩

theorem Ends.ne_nil {calls : List Exchange} (h : booted.Ends calls) : calls ≠ [] := by
  rintro rfl
  rcases h with h | ⟨-, earlier, e, h, -⟩
  · cases h
  · exact absurd h (by simp)

/-- It is noted that the sandbox is prepared just in case the run goes on after it has prepared it,
    now or before. -/
theorem notes_iff {calls : List Exchange} (h : p.AllowsAll logs calls) (hends : p.Ends calls) :
    (∃ e ∈ calls, e.request = .engineReady) ↔ p = .booted ∧ calls ≠ [] ∨ GoesOn calls := by
  induction calls generalizing p with
  | nil => simp [GoesOn]
  | cons e later ih =>
      obtain ⟨hallows, hlater⟩ := h
      rw [List.exists_mem_cons_iff, goesOn_cons]
      by_cases hp : p = .booted
      · subst hp
        refine iff_of_true ?_ (.inl ⟨rfl, List.cons_ne_nil _ _⟩)
        obtain ⟨q, r⟩ := e
        rcases hallows with rfl | ⟨record, rfl⟩
        · exact .inl rfl
        · -- only a record has been kept, and the run is where it was
          obtain ⟨-, hbooted⟩ | hends' := hends.tail
          · cases hbooted
          · exact .inr ((ih hlater hends').2 (.inl ⟨rfl, hends'.ne_nil⟩))
      · have hnot : e.request ≠ .engineReady := fun hq =>
          hp (eq_booted_of_allows (by rwa [hq] at hallows))
        rw [or_iff_right hnot, or_iff_right fun hbooted => hp hbooted.1]
        obtain ⟨rfl, -⟩ | hends' := hends.tail
        · simp [GoesOn]
        · rw [ih hlater hends', next_eq_booted_iff hp hallows]

end EnginePhase

namespace World

variable (c : Collaborators) {pauses : Request → Bool}

/-- At the end of a turn a run rests, unless the last thing it did was to prepare the sandbox. -/
theorem turn_ends (hpauses : ∀ q, pauses q → q.isAwaited) {p : EnginePhase} {d : Dialogue α}
    (hd : d.Follows logs (fun p _ => p.isResting) p) (w : World) :
    p.Ends (w.turnCalls c pauses d) := by
  induction d generalizing p w with
  | done a => exact .inl hd
  | ask q next ih =>
      rw [turnCalls_ask]
      by_cases hq : pauses q
      · rw [if_pos hq]
        have hp : p ≠ .booted := by
          rintro rfl
          rcases hd.1 with rfl | ⟨record, rfl⟩ <;> cases hpauses _ hq
        rcases EnginePhase.pauses_next hpauses p q (w.answer c q).1 hq hd.1 with h | ⟨h, -⟩
        · exact .inl h
        · exact .inr ⟨h, [], _, rfl, (EnginePhase.next_eq_booted_iff hp hd.1).1 h⟩
      · rw [if_neg hq]
        rcases ih _ (hd.2 _) (w.answer c q).2 with h | ⟨h, hbooted⟩
        · exact .inl h
        · exact .inr ⟨h, hbooted.append_left [_]⟩

theorem callsOf_ends (hpauses : ∀ q, pauses q → q.isAwaited) {p : EnginePhase}
    (hp : p.isResting) (w : World) (schedule : List Nat) {ds : List (Dialogue α)} {i : Nat}
    {d : Dialogue α} (hi : ds[i]? = some d) (hd : d.Follows logs (fun p _ => p.isResting) p) :
    p.Ends (w.callsOf c pauses schedule ds i) := by
  have hturn (w : World) (calls : List Exchange) (left : Dialogue α)
      (h : p.Ends calls ∧ left.Follows logs (fun p _ => p.isResting) (p.after calls)) :
      p.Ends (calls ++ w.turnCalls c pauses left)
        ∧ (w.turn c pauses left).1.Follows logs (fun p _ => p.isResting)
          (p.after (calls ++ w.turnCalls c pauses left)) := by
    rw [EnginePhase.after_append]
    exact ⟨.append_left (turn_ends c hpauses h.2 w),
      (h.2.reaches (turn_reaches c pauses w left)).2⟩
  have hstart : p.Ends [] ∧ d.Follows logs (fun p _ => p.isResting) (p.after []) := ⟨.inl hp, hd⟩
  obtain ⟨left, -, hends, -⟩ := interleave_keeps hturn w schedule hi hstart
  exact hends

/-! ## Notes that the sandbox is prepared -/

theorem turn_engineReady (pauses : Request → Bool) (w : World) (d : Dialogue α) :
    (w.turn c pauses d).2.engineReady = true
      ↔ w.engineReady = true ∨ ∃ e ∈ w.turnCalls c pauses d, e.request = .engineReady := by
  induction d generalizing w with
  | done a => simp [turn, turnCalls]
  | ask q next ih =>
      have hone : (w.answer c q).2.engineReady = true
          ↔ w.engineReady = true ∨ q = .engineReady := by
        by_cases hnote : q = .engineReady
        · subst hnote
          exact iff_of_true rfl (.inr rfl)
        · rw [answer_engineReady c hnote, or_iff_left hnote]
      rw [turn_ask, turnCalls_ask, List.exists_mem_cons_iff]
      by_cases hq : pauses q
      · rw [if_pos hq, if_pos hq, hone]
        simp
      · rw [if_neg hq, if_neg hq, ih, hone, or_assoc]

theorem interleave_engineReady (pauses : Request → Bool) (w : World) (schedule : List Nat)
    (ds : List (Dialogue α)) :
    (w.interleave c pauses schedule ds).2.engineReady = true
      ↔ w.engineReady = true ∨ ∃ i < ds.length, ∃ e ∈ w.callsOf c pauses schedule ds i,
        e.request = .engineReady := by
  induction schedule generalizing w ds with
  | nil => simp [interleave, callsOf]
  | cons j schedule ih =>
      cases hj : ds[j]? with
      | none =>
          rw [interleave_of_none hj, ih]
          simp only [callsOf_of_none hj]
      | some d =>
          rw [interleave_of_some hj, ih, turn_engineReady, List.length_set, or_assoc]
          refine or_congr_right ⟨?_, ?_⟩
          · rintro (⟨e, he, hnote⟩ | ⟨i, hi, e, he, hnote⟩)
            · refine ⟨j, (List.getElem?_eq_some_iff.1 hj).1, e, ?_, hnote⟩
              rw [callsOf_self hj]
              exact List.mem_append_left _ he
            · refine ⟨i, hi, e, ?_, hnote⟩
              rw [callsOf_of_some hj]
              exact List.mem_append_right _ he
          · rintro ⟨i, hi, e, he, hnote⟩
            rw [callsOf_of_some hj] at he
            rcases List.mem_append.1 he with he | he
            · split at he
              · exact .inl ⟨e, he, hnote⟩
              · cases he
            · exact .inr ⟨i, hi, e, he, hnote⟩

/-! ## Scripts -/

/-- The exchanges that one of several scripts, given by its number, takes in all its turns. -/
def scriptCalls (c : Collaborators) (pauses : Request → Bool) (w : World) (schedule : List Nat)
    (scripts : List (String × Value)) (i : Nat) : List Exchange :=
  w.callsOf c pauses schedule (scripts.map fun s => runScript s.1 s.2) i

theorem scriptCalls_reaches (pauses : Request → Bool) (w : World) (schedule : List Nat)
    {scripts : List (String × Value)} {i : Nat} (hi : i < scripts.length) :
    ∃ left, (runScript scripts[i].1 scripts[i].2).Reaches
      (w.scriptCalls c pauses schedule scripts i) left := by
  obtain ⟨left, -, hreaches⟩ := interleave_reaches c pauses w schedule
    (scripts.map fun s => runScript s.1 s.2) (i := i) (d := runScript scripts[i].1 scripts[i].2)
    (by simp [hi])
  exact ⟨left, hreaches⟩

theorem scriptCalls_allowed (pauses : Request → Bool) (w : World) (schedule : List Nat)
    {scripts : List (String × Value)} {i : Nat} (hi : i < scripts.length) :
    EnginePhase.rest.AllowsAll RunM.anyLine (w.scriptCalls c pauses schedule scripts i) := by
  obtain ⟨left, hreaches⟩ := scriptCalls_reaches c pauses w schedule hi
  exact ((runScript_follows _ _).reaches hreaches).1

theorem scriptCalls_ends (hpauses : ∀ q, pauses q → q.isAwaited) (w : World)
    (schedule : List Nat) {scripts : List (String × Value)} {i : Nat} (hi : i < scripts.length) :
    EnginePhase.rest.Ends (w.scriptCalls c pauses schedule scripts i) :=
  callsOf_ends c hpauses rfl w schedule (d := runScript scripts[i].1 scripts[i].2) (by simp [hi])
    (runScript_follows _ _)

/-- It is known that the sandbox is prepared as soon as a script goes on that has prepared it. -/
theorem runTogether_engineReady (hpauses : ∀ q, pauses q → q.isAwaited) {w : World}
    (hw : w.engineReady = false) (schedule : List Nat) (scripts : List (String × Value)) :
    (w.runTogether c pauses schedule scripts).2.engineReady = true
      ↔ ∃ i < scripts.length, GoesOn (w.scriptCalls c pauses schedule scripts i) := by
  have hnotes (i : Nat) (hi : i < scripts.length) :
      (∃ e ∈ w.scriptCalls c pauses schedule scripts i, e.request = .engineReady)
        ↔ GoesOn (w.scriptCalls c pauses schedule scripts i) := by
    rw [EnginePhase.notes_iff (scriptCalls_allowed c pauses w schedule hi)
      (scriptCalls_ends c hpauses w schedule hi)]
    exact or_iff_right fun h => nomatch h.1
  rw [runTogether, interleave_engineReady, hw, List.length_map, or_iff_right Bool.false_ne_true]
  exact exists_congr fun i => and_congr_right (hnotes i)

/-- What the scripts announce are their preparations, and strays. -/
theorem sum_announces (hpauses : ∀ q, pauses q → q.isAwaited) (w : World) (schedule : List Nat)
    (scripts : List (String × Value)) :
    ∑ i ∈ Finset.range scripts.length,
        (w.scriptCalls c pauses schedule scripts i).countP Exchange.announces
      = ∑ i ∈ Finset.range scripts.length,
          (w.scriptCalls c pauses schedule scripts i).countP Exchange.isBoot
        + ∑ i ∈ Finset.range scripts.length,
          EnginePhase.rest.strays (w.scriptCalls c pauses schedule scripts i) := by
  rw [← Finset.sum_add_distrib]
  refine Finset.sum_congr rfl fun i hi => ?_
  have hi := Finset.mem_range.1 hi
  have hcalls := EnginePhase.countP_announces (scriptCalls_allowed c pauses w schedule hi)
  rwa [(scriptCalls_ends c hpauses w schedule hi).pending] at hcalls

theorem scriptCalls_strays_eq_zero_iff (pauses : Request → Bool) (w : World)
    (schedule : List Nat) {scripts : List (String × Value)} {i : Nat} (hi : i < scripts.length) :
    EnginePhase.rest.strays (w.scriptCalls c pauses schedule scripts i) = 0
      ↔ ∀ deed, (runScript scripts[i].1 scripts[i].2).Makes
        (w.scriptCalls c pauses schedule scripts i) deed → ¬ deed.Logs bootLine := by
  obtain ⟨left, hreaches⟩ := scriptCalls_reaches c pauses w schedule hi
  exact runScript_strays_eq_zero_iff hreaches

/-- There are as many announcements as preparations just in case none of the log calls that the
    scripts have made has logged such a line. -/
theorem runTogether_announces (hpauses : ∀ q, pauses q → q.isAwaited) {w : World}
    (hw : w.journal = []) (schedule : List Nat) (scripts : List (String × Value)) :
    (w.runTogether c pauses schedule scripts).2.workspace.actionLog.count bootLine
        = w.workspace.actionLog.count bootLine
          + (w.runTogether c pauses schedule scripts).2.journal.countP Exchange.isBoot
      ↔ ∀ i s, scripts[i]? = some s → ∀ deed,
        (runScript s.1 s.2).Makes (w.scriptCalls c pauses schedule scripts i) deed →
          ¬ deed.Logs bootLine := by
  have hlines := interleave_counts (N := fun w => w.workspace.actionLog.count bootLine)
    (count_answer c) pauses w schedule (scripts.map fun s => runScript s.1 s.2)
  have hboots := interleave_counts (N := fun w => w.journal.countP Exchange.isBoot)
    (countP_isBoot_answer c) pauses w schedule (scripts.map fun s => runScript s.1 s.2)
  rw [List.length_map] at hlines hboots
  rw [hw, List.countP_nil, Nat.zero_add] at hboots
  have hsum := sum_announces c hpauses w schedule scripts
  calc
    _ ↔ ∑ i ∈ Finset.range scripts.length,
          EnginePhase.rest.strays (w.scriptCalls c pauses schedule scripts i) = 0 := by
      rw [runTogether, hlines, hboots, Nat.add_left_cancel_iff]
      exact (iff_of_eq (congrArg (· = _) hsum)).trans Nat.add_eq_left
    _ ↔ ∀ i < scripts.length,
          EnginePhase.rest.strays (w.scriptCalls c pauses schedule scripts i) = 0 := by
      rw [Finset.sum_eq_zero_iff]
      exact forall_congr' fun i => by rw [Finset.mem_range]
    _ ↔ _ := by
      constructor
      · intro hzero i s hs
        obtain ⟨hi, rfl⟩ := List.getElem?_eq_some_iff.1 hs
        exact (scriptCalls_strays_eq_zero_iff c pauses w schedule hi).1 (hzero i hi)
      · intro hnone i hi
        exact (scriptCalls_strays_eq_zero_iff c pauses w schedule hi).2
          (hnone i scripts[i] (List.getElem?_eq_getElem hi))

end World

end AgentScript
