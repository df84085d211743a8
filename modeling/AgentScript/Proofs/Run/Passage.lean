import AgentScript.Interleaving
import AgentScript.Proofs.Run.Requests
import AgentScript.Proofs.Run.World

set_option autoImplicit false

/-! # Passages through dialogues

A passage through a dialogue is a list of exchanges that leads to an end of it, whoever gives the
replies. A dialogue that is played in a world passes through the exchanges that go into the journal
(`World.play_passes`), and so it does if others take turns with it (`World.interleave_passes`).
Passages through an action are taken apart into passages through its parts
(`RunM.from_bind_passes`). A dialogue that has not ended has come a part of the way: by the exchanges
of its turns it reaches what is left of it (`World.interleave_reaches`). -/

namespace AgentScript

variable {α β : Type}

/-- A dialogue may pass through some exchanges and end with `b`. -/
def Dialogue.Passes : Dialogue α → List Exchange → α → Prop
  | .done a, calls, b => calls = [] ∧ b = a
  | .ask q next, calls, b => ∃ r rest, calls = ⟨q, r⟩ :: rest ∧ (next r).Passes rest b

namespace Dialogue

theorem passes_bind {d : Dialogue α} {f : α → Dialogue β} {calls : List Exchange} {b : β} :
    (d >>= f).Passes calls b
      ↔ ∃ a first rest, calls = first ++ rest ∧ d.Passes first a ∧ (f a).Passes rest b := by
  induction d generalizing calls with
  | done a =>
      constructor
      · exact fun h => ⟨a, [], calls, rfl, ⟨rfl, rfl⟩, h⟩
      · rintro ⟨_, _, rest, rfl, ⟨rfl, rfl⟩, h⟩
        exact h
  | ask q next ih =>
      constructor
      · rintro ⟨r, tail, rfl, h⟩
        obtain ⟨a, first, rest, rfl, hfirst, hrest⟩ := (ih r).1 h
        exact ⟨a, ⟨q, r⟩ :: first, rest, rfl, ⟨r, first, rfl, hfirst⟩, hrest⟩
      · rintro ⟨a, _, rest, rfl, ⟨r, first, rfl, hfirst⟩, hrest⟩
        exact ⟨r, first ++ rest, rfl, (ih r).2 ⟨a, first, rest, rfl, hfirst, hrest⟩⟩

/-- A passage through a dialogue keeps to its contract. -/
theorem Keeps.passes {asks : Request → Prop} {ends : α → Prop} {d : Dialogue α}
    (h : d.Keeps (fun _ => True) asks ends) {calls : List Exchange} {a : α}
    (hpass : d.Passes calls a) : ends a ∧ ∀ e ∈ calls, asks e.request := by
  induction d generalizing calls with
  | done b =>
      obtain ⟨rfl, rfl⟩ := hpass
      exact ⟨h, by simp⟩
  | ask q next ih =>
      obtain ⟨r, rest, rfl, hrest⟩ := hpass
      obtain ⟨hends, hasks⟩ := ih r (h.2 r (q.failsIn_all r)) hrest
      exact ⟨hends, List.forall_mem_cons.2 ⟨h.1, hasks⟩⟩

end Dialogue

/-! ## Passages through actions -/

namespace RunM

theorem from_bind_passes {x : RunM α} {f : α → RunM β} {run : Run} {calls : List Exchange}
    {r : Except Failure β × Run} :
    ((x >>= f).from run).Passes calls r
      ↔ (∃ e after, (x.from run).Passes calls (.error e, after) ∧ r = (.error e, after))
        ∨ ∃ a between first rest, calls = first ++ rest
          ∧ (x.from run).Passes first (.ok a, between) ∧ ((f a).from between).Passes rest r := by
  rw [from_bind, Dialogue.passes_bind]
  constructor
  · rintro ⟨⟨e | a, between⟩, first, rest, rfl, hfirst, hrest⟩
    · obtain ⟨rfl, rfl⟩ := hrest
      exact .inl ⟨e, between, by rwa [List.append_nil], rfl⟩
    · exact .inr ⟨a, between, first, rest, rfl, hfirst, hrest⟩
  · rintro (⟨e, after, hx, rfl⟩ | ⟨a, between, first, rest, rfl, hfirst, hrest⟩)
    · exact ⟨(.error e, after), calls, [], (List.append_nil calls).symm, hx, rfl, rfl⟩
    · exact ⟨(.ok a, between), first, rest, rfl, hfirst, hrest⟩

end RunM

/-! ## Passages in a world -/

namespace World

theorem answer_journal_filter (c : Collaborators) (w : World) (q : Request) :
    (w.answer c q).2.journal
      = w.journal ++ [⟨q, (w.answer c q).1⟩].filter fun e => isJournaled e.request := by
  rw [answer_journal]
  cases hq : isJournaled q <;> simp [hq]

/-- A dialogue that is played passes through what goes into the journal. -/
theorem play_passes (c : Collaborators) (w : World) (d : Dialogue α) :
    ∃ calls, d.Passes calls (w.play c d).1
      ∧ (w.play c d).2.journal = w.journal ++ calls.filter fun e => isJournaled e.request := by
  induction d generalizing w with
  | done a => exact ⟨[], ⟨rfl, rfl⟩, (List.append_nil _).symm⟩
  | ask q next ih =>
      obtain ⟨calls, hpass, hjournal⟩ := ih (w.answer c q).1 (w.answer c q).2
      refine ⟨⟨q, (w.answer c q).1⟩ :: calls, ⟨_, calls, rfl, hpass⟩, ?_⟩
      rw [play_ask, hjournal, answer_journal_filter, List.append_assoc, ← List.filter_append,
        List.singleton_append]

/-- What holds of every answer holds of all that goes into the journal. -/
theorem play_forall_journal {c : Collaborators} {P : Exchange → Prop}
    (hP : ∀ (w : World) (q : Request), P ⟨q, (w.answer c q).1⟩) {w : World}
    (hw : ∀ e ∈ w.journal, P e) (d : Dialogue α) : ∀ e ∈ (w.play c d).2.journal, P e := by
  induction d generalizing w with
  | done a => exact hw
  | ask q next ih =>
      have hanswer : ∀ e ∈ (w.answer c q).2.journal, P e := by
        rw [answer_journal_filter]
        refine List.forall_mem_append.2 ⟨hw, fun e he => ?_⟩
        rw [List.mem_singleton.1 (List.mem_filter.1 he).1]
        exact hP w q
      exact ih _ hanswer

end World

/-! ## Dialogues on their way -/

/-- A dialogue may come by some exchanges to a point where the second dialogue is what is left. -/
inductive Dialogue.Reaches : Dialogue α → List Exchange → Dialogue α → Prop where
  | here (d : Dialogue α) : Reaches d [] d
  | on {q : Request} {next : q.Reply → Dialogue α} {r : q.Reply} {rest : List Exchange}
      {left : Dialogue α} (h : Reaches (next r) rest left) :
      Reaches (.ask q next) (⟨q, r⟩ :: rest) left

namespace Dialogue

theorem Reaches.trans {d between left : Dialogue α} {first rest : List Exchange}
    (h : d.Reaches first between) (h' : between.Reaches rest left) :
    d.Reaches (first ++ rest) left := by
  induction h with
  | here d => exact h'
  | on _ ih => exact .on (ih h')

theorem Reaches.passes {d left : Dialogue α} {first rest : List Exchange} {a : α}
    (h : d.Reaches first left) (hleft : left.Passes rest a) : d.Passes (first ++ rest) a := by
  induction h with
  | here d => exact hleft
  | on _ ih => exact ⟨_, _, rfl, ih hleft⟩

theorem Reaches.bind {d left : Dialogue α} {calls : List Exchange} (h : d.Reaches calls left)
    (f : α → Dialogue β) : (d >>= f).Reaches calls (left >>= f) := by
  induction h with
  | here d => exact .here _
  | on _ ih => exact .on ih

/-- On its way, a dialogue that goes on with another one is still in the first part or has ended
    it. -/
theorem reaches_bind {d : Dialogue α} {f : α → Dialogue β} {calls : List Exchange}
    {left : Dialogue β} (h : (d >>= f).Reaches calls left) :
    (∃ between, d.Reaches calls between ∧ left = between >>= f)
      ∨ ∃ a first rest, calls = first ++ rest ∧ d.Reaches first (.done a)
        ∧ (f a).Reaches rest left := by
  induction d generalizing calls with
  | done a => exact .inr ⟨a, [], calls, rfl, .here _, h⟩
  | ask q next ih =>
      cases h with
      | here => exact .inl ⟨.ask q next, .here _, rfl⟩
      | @on _ _ r _ _ h =>
          obtain ⟨between, hbetween, hleft⟩ | ⟨a, first, rest, rfl, hfirst, hrest⟩ := ih r h
          · exact .inl ⟨between, .on hbetween, hleft⟩
          · exact .inr ⟨a, ⟨q, r⟩ :: first, rest, rfl, .on hfirst, hrest⟩

end Dialogue

namespace World

/-- The exchanges that a dialogue takes in a turn. -/
def turnCalls (c : Collaborators) (pauses : Request → Bool) (w : World) :
    Dialogue α → List Exchange
  | .done _ => []
  | .ask q next =>
    let (reply, after) := w.answer c q
    ⟨q, reply⟩ :: if pauses q then [] else after.turnCalls c pauses (next reply)

theorem turnCalls_ask (c : Collaborators) (pauses : Request → Bool) (w : World) (q : Request)
    (next : q.Reply → Dialogue α) :
    w.turnCalls c pauses (.ask q next)
      = ⟨q, (w.answer c q).1⟩ :: if pauses q then []
        else (w.answer c q).2.turnCalls c pauses (next (w.answer c q).1) :=
  rfl

/-- The exchanges that one of several dialogues, given by its number, takes in all its turns. -/
def callsOf (c : Collaborators) (pauses : Request → Bool) (w : World) :
    List Nat → List (Dialogue α) → Nat → List Exchange
  | [], _, _ => []
  | j :: schedule, ds, i =>
    match ds[j]? with
    | none => w.callsOf c pauses schedule ds i
    | some d =>
      let (d', after) := w.turn c pauses d
      (if j = i then w.turnCalls c pauses d else []) ++
        after.callsOf c pauses schedule (ds.set j d') i

theorem turn_reaches (c : Collaborators) (pauses : Request → Bool) (w : World) (d : Dialogue α) :
    d.Reaches (w.turnCalls c pauses d) (w.turn c pauses d).1 := by
  induction d generalizing w with
  | done a => exact .here _
  | ask q next ih =>
      rw [turn_ask, turnCalls_ask]
      by_cases hq : pauses q
      · rw [if_pos hq, if_pos hq]
        exact .on (.here _)
      · rw [if_neg hq, if_neg hq]
        exact .on (ih _ _)

section

variable {c : Collaborators} {pauses : Request → Bool} {w : World} {j : Nat} {schedule : List Nat}
  {ds : List (Dialogue α)}

theorem interleave_of_none (hj : ds[j]? = none) :
    w.interleave c pauses (j :: schedule) ds = w.interleave c pauses schedule ds := by
  rw [interleave, hj]

theorem interleave_of_some {d : Dialogue α} (hj : ds[j]? = some d) :
    w.interleave c pauses (j :: schedule) ds
      = (w.turn c pauses d).2.interleave c pauses schedule (ds.set j (w.turn c pauses d).1) := by
  rw [interleave, hj]

theorem callsOf_of_none (hj : ds[j]? = none) (i : Nat) :
    w.callsOf c pauses (j :: schedule) ds i = w.callsOf c pauses schedule ds i := by
  rw [callsOf, hj]

theorem callsOf_of_some {d : Dialogue α} (hj : ds[j]? = some d) (i : Nat) :
    w.callsOf c pauses (j :: schedule) ds i
      = (if j = i then w.turnCalls c pauses d else []) ++
        (w.turn c pauses d).2.callsOf c pauses schedule (ds.set j (w.turn c pauses d).1) i := by
  rw [callsOf, hj]

theorem callsOf_self {d : Dialogue α} (hj : ds[j]? = some d) :
    w.callsOf c pauses (j :: schedule) ds j
      = w.turnCalls c pauses d ++
        (w.turn c pauses d).2.callsOf c pauses schedule (ds.set j (w.turn c pauses d).1) j := by
  rw [callsOf_of_some hj, if_pos rfl]

theorem callsOf_other {d : Dialogue α} (hj : ds[j]? = some d) {i : Nat} (hji : j ≠ i) :
    w.callsOf c pauses (j :: schedule) ds i
      = (w.turn c pauses d).2.callsOf c pauses schedule (ds.set j (w.turn c pauses d).1) i := by
  rw [callsOf_of_some hj, if_neg hji, List.nil_append]

end

theorem length_interleave (c : Collaborators) (pauses : Request → Bool) (w : World)
    (schedule : List Nat) (ds : List (Dialogue α)) :
    (w.interleave c pauses schedule ds).1.length = ds.length := by
  induction schedule generalizing w ds with
  | nil => rfl
  | cons j schedule ih =>
      cases hj : ds[j]? with
      | none =>
          rw [interleave_of_none hj]
          exact ih w ds
      | some d =>
          rw [interleave_of_some hj]
          exact (ih _ _).trans List.length_set

/-- What every turn of a dialogue keeps, of the exchanges that the dialogue has taken and of what is
    left of it, is kept if other dialogues take turns with it. -/
theorem interleave_keeps {P : List Exchange → Dialogue α → Prop} {c : Collaborators}
    {pauses : Request → Bool}
    (hturn : ∀ (w : World) calls d, P calls d →
      P (calls ++ w.turnCalls c pauses d) (w.turn c pauses d).1)
    (w : World) (schedule : List Nat) {ds : List (Dialogue α)} {i : Nat} {calls : List Exchange}
    {d : Dialogue α} (hd : ds[i]? = some d) (h : P calls d) :
    ∃ left, (w.interleave c pauses schedule ds).1[i]? = some left
      ∧ P (calls ++ w.callsOf c pauses schedule ds i) left := by
  induction schedule generalizing ds w calls d with
  | nil => exact ⟨d, hd, by rwa [callsOf, List.append_nil]⟩
  | cons j schedule ih =>
      cases hj : ds[j]? with
      | none =>
          rw [interleave_of_none hj, callsOf_of_none hj]
          exact ih w hd h
      | some e =>
          rw [interleave_of_some hj]
          by_cases hji : j = i
          · -- the turn was this dialogue's
            subst hji
            obtain rfl := Option.some.inj (hj.symm.trans hd)
            have hset : (ds.set j (w.turn c pauses e).1)[j]? = some (w.turn c pauses e).1 :=
              List.getElem?_set_self (List.getElem?_eq_some_iff.1 hj).1
            rw [callsOf_self hj, ← List.append_assoc]
            exact ih _ hset (hturn w calls e h)
          · rw [callsOf_other hj hji]
            exact ih _ (by rwa [List.getElem?_set_ne hji]) h

/-- Dialogues that take turns come by their own exchanges to what is left of them. -/
theorem interleave_reaches (c : Collaborators) (pauses : Request → Bool) (w : World)
    (schedule : List Nat) (ds : List (Dialogue α)) {i : Nat} {d : Dialogue α}
    (hd : ds[i]? = some d) :
    ∃ left, (w.interleave c pauses schedule ds).1[i]? = some left
      ∧ d.Reaches (w.callsOf c pauses schedule ds i) left :=
  interleave_keeps (P := fun calls left => d.Reaches calls left)
    (fun w _ left h => h.trans (turn_reaches c pauses w left)) w schedule hd (.here d)

/-- Dialogues that take turns pass through exchanges of their own. -/
theorem interleave_passes (c : Collaborators) (pauses : Request → Bool) (w : World)
    (schedule : List Nat) (ds : List (Dialogue α)) {i : Nat} {a : α}
    (h : (w.interleave c pauses schedule ds).1[i]? = some (.done a)) :
    ∃ d calls, ds[i]? = some d ∧ d.Passes calls a := by
  have hi : i < ds.length := by
    rw [← length_interleave c pauses w schedule ds]
    exact (List.getElem?_eq_some_iff.1 h).1
  obtain ⟨left, hleft, hreaches⟩ :=
    interleave_reaches c pauses w schedule ds (List.getElem?_eq_getElem hi)
  obtain rfl := Option.some.inj (h.symm.trans hleft)
  have hended : (Dialogue.done a).Passes [] a := ⟨rfl, rfl⟩
  exact ⟨ds[i], _, List.getElem?_eq_getElem hi, hreaches.passes hended⟩

end World

end AgentScript
