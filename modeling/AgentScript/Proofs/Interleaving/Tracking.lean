import AgentScript.Proofs.Interleaving.Isolation
import AgentScript.Proofs.Run.Phase

set_option autoImplicit false

/-! # Runs that share a sandbox

Scripts that share a world share its sandbox, which the first of them to run code prepares. Between
two turns each script is in a phase that agrees with the world (`EnginePhase.Agrees`). What every
request keeps in every phase that allows it holds, whatever the schedule
(`World.interleave_tracks`). -/

namespace AgentScript

variable {α : Type} {logs : String → Prop}

/-! ## Exchanges with the sandbox -/

/-- The requests at which the run that puts them may have to wait. -/
def Request.isAwaited : Request → Bool
  | .generate _ _ | .boot | .runCode _ => true
  | _ => false

/-- The exchange in which the preparation of the sandbox is announced. -/
def Exchange.announcement : Exchange :=
  ⟨.logAction bootLine, ()⟩

/-- Whether an exchange has prepared the sandbox. -/
def Exchange.hasBooted : Exchange → Bool
  | ⟨.boot, boot⟩ => boot.result.isOk
  | _ => false

/-- Whether the sandbox has been prepared in some exchange. -/
def HasBooted (journal : List Exchange) : Prop :=
  ∃ e ∈ journal, e.hasBooted

/-! ## Worlds that go on -/

/-- The second world is the first one later on. -/
structure World.Precedes (w w' : World) : Prop where
  engineReady : w.engineReady = true → w'.engineReady = true
  journal : w.journal <+: w'.journal

namespace World

variable {w w' w'' : World} (c : Collaborators) (pauses : Request → Bool)

theorem Precedes.refl (w : World) : w.Precedes w :=
  ⟨id, List.prefix_rfl⟩

theorem Precedes.trans (h : w.Precedes w') (h' : w'.Precedes w'') : w.Precedes w'' :=
  ⟨fun hw => h'.engineReady (h.engineReady hw), h.journal.trans h'.journal⟩

theorem Precedes.hasBooted (h : w.Precedes w') (hw : HasBooted w.journal) :
    HasBooted w'.journal := by
  obtain ⟨e, he, hbooted⟩ := hw
  exact ⟨e, h.journal.subset he, hbooted⟩

theorem answer_engineReady {q : Request} (hq : q ≠ .engineReady) :
    (w.answer c q).2.engineReady = w.engineReady := by
  cases q <;> first | rfl | exact absurd rfl hq

theorem precedes_answer (w : World) (q : Request) : w.Precedes (w.answer c q).2 := by
  refine ⟨fun hw => ?_, ⟨_, (w.answer_journal c q).symm⟩⟩
  by_cases hq : q = .engineReady
  · rw [hq]
    rfl
  · rwa [answer_engineReady c hq]

theorem precedes_turn (w : World) (d : Dialogue α) : w.Precedes (w.turn c pauses d).2 := by
  induction d generalizing w with
  | done a => exact .refl w
  | ask q next ih =>
      rw [turn_ask]
      split
      · exact w.precedes_answer c q
      · exact (w.precedes_answer c q).trans (ih _ _)

/-- Turns one after the other. -/
theorem interleave_append (w : World) (schedule more : List Nat) (ds : List (Dialogue α)) :
    w.interleave c pauses (schedule ++ more) ds
      = (w.interleave c pauses schedule ds).2.interleave c pauses more
        (w.interleave c pauses schedule ds).1 := by
  induction schedule generalizing w ds with
  | nil => rfl
  | cons i schedule ih =>
      rw [List.cons_append, interleave, interleave]
      cases ds[i]? with
      | none => exact ih w ds
      | some d => exact ih _ _

end World

/-! ## Invariants -/

/-- What holds of the phase of a run and the world, and goes on to hold: when the run puts a request
    that its phase allows, and when other runs have taken turns. Turns end in the phases of
    `pausing`. -/
structure IsEngineInvariant (c : Collaborators) (logs : String → Prop)
    (pausing : EnginePhase → Prop) (I : EnginePhase → World → Prop) : Prop where
  step : ∀ p w q, p.Allows logs q → I p w → I (p.next q (w.answer c q).1) (w.answer c q).2
  frame : ∀ p p' w w', pausing p → pausing p' → I p w → I p' w' → w.Precedes w' → I p w'

/-- A dialogue that is between two turns, in a phase in which the invariant holds. -/
def Dialogue.Tracks (logs : String → Prop) (pausing : EnginePhase → Prop)
    (I : EnginePhase → World → Prop) (w : World) (d : Dialogue α) : Prop :=
  ∃ p, pausing p ∧ I p w ∧ d.Follows logs (fun p _ => p.isResting) p

namespace World

variable {c : Collaborators} {pauses : Request → Bool} {pausing : EnginePhase → Prop}
  {I : EnginePhase → World → Prop} (hI : IsEngineInvariant c logs pausing I)
  (hresting : ∀ p : EnginePhase, p.isResting → pausing p)
  (hpauses : ∀ (p : EnginePhase) q r, pauses q → p.Allows logs q → pausing (p.next q r))

include hI hresting hpauses

theorem turn_tracks {d : Dialogue α} {p : EnginePhase} {w : World}
    (hd : d.Follows logs (fun p _ => p.isResting) p) (hw : I p w) :
    (w.turn c pauses d).1.Tracks logs pausing I (w.turn c pauses d).2 := by
  induction d generalizing p w with
  | done a => exact ⟨p, hresting p hd, hw, hd⟩
  | ask q next ih =>
      obtain ⟨hq, hnext⟩ := hd
      have hafter := hI.step p w q hq hw
      rw [turn_ask]
      split
      · next hpause => exact ⟨_, hpauses p q _ hpause hq, hafter, hnext _⟩
      · exact ih _ (hnext _) hafter

/-- Whatever the schedule, the invariant holds of every dialogue after its turns, and it holds for a
    run that has nothing to do with the sandbox. -/
theorem interleave_tracks (schedule : List Nat) {ds : List (Dialogue α)} {w : World}
    (hw : I .rest w) (hds : ∀ d ∈ ds, d.Tracks logs pausing I w) :
    I .rest (w.interleave c pauses schedule ds).2
      ∧ ∀ d ∈ (w.interleave c pauses schedule ds).1,
        d.Tracks logs pausing I (w.interleave c pauses schedule ds).2 := by
  induction schedule generalizing ds w with
  | nil => exact ⟨hw, hds⟩
  | cons i schedule ih =>
      rw [interleave]
      cases hi : ds[i]? with
      | none => exact ih hw hds
      | some d =>
          obtain ⟨p, hp, hpw, hd⟩ := hds d (List.mem_of_getElem? hi)
          obtain ⟨p', hp', hafter, hd'⟩ := turn_tracks hI hresting hpauses hd hpw
          have hframe := fun p'' hp'' hpw'' =>
            hI.frame p'' p' w _ hp'' hp' hpw'' hafter (w.precedes_turn c pauses d)
          refine ih (hframe .rest (hresting .rest rfl) hw) fun e he => ?_
          rcases List.mem_or_eq_of_mem_set he with he | rfl
          · -- another dialogue, which has stayed where it was
            obtain ⟨q, hq, hqw, he⟩ := hds e he
            exact ⟨q, hq, hframe q hq hqw, he⟩
          · exact ⟨p', hp', hafter, hd'⟩

end World

/-! ## Phases and worlds -/

namespace EnginePhase

/-- What a phase says about the world. -/
def Agrees (w : World) : EnginePhase → Prop
  | .rest => True
  | .cold => w.engineReady = false
  | .announced => w.engineReady = false ∧ ∃ before, w.journal = before ++ [.announcement]
  | .booted => HasBooted w.journal
  | .ready => w.engineReady = true

/-- A request that a phase allows leads to a phase that agrees with the world again. -/
theorem Agrees.answer (c : Collaborators) {p : EnginePhase} {w : World} {q : Request}
    (hq : p.Allows logs q) (h : p.Agrees w) :
    (p.next q (w.answer c q).1).Agrees (w.answer c q).2 := by
  have hstate : (ofState (w.engineState c)).Agrees w := by
    unfold World.engineState
    split
    · trivial
    · split
      · next hready => exact hready
      · next hnot => exact Bool.eq_false_of_not_eq_true hnot
  cases p with
  | rest =>
      rcases hq with hq | rfl
      · rw [next_of_isApart rfl hq]
        trivial
      · exact hstate
  | ready =>
      rcases hq with hq | rfl | ⟨code, rfl⟩
      · rw [next_of_isApart rfl hq]
        exact (w.precedes_answer c q).engineReady h
      · exact hstate
      · exact h
  | cold =>
      obtain rfl := hq
      exact ⟨h, w.journal, rfl⟩
  | announced =>
      obtain rfl := hq
      change Agrees _ (if (w.boot c).result.isOk then .booted else .rest)
      split
      · next hok => exact ⟨⟨.boot, w.boot c⟩, List.mem_append_right _ List.mem_cons_self, hok⟩
      · trivial
  | booted =>
      rcases hq with rfl | ⟨record, rfl⟩
      · rfl
      · exact h

theorem eq_announced_of_allows {p : EnginePhase} (h : p.Allows logs .boot) : p = .announced := by
  cases p with
  | announced => rfl
  | rest => simp [Allows, Request.IsApart] at h
  | ready => simp [Allows, Request.IsApart] at h
  | cold | booted => simp [Allows] at h

theorem eq_ready_of_allows {p : EnginePhase} {code : String} (h : p.Allows logs (.runCode code)) :
    p = .ready := by
  cases p with
  | ready => rfl
  | rest => simp [Allows, Request.IsApart] at h
  | _ => simp [Allows] at h

theorem eq_booted_of_allows {p : EnginePhase} (h : p.Allows logs .engineReady) : p = .booted := by
  cases p with
  | booted => rfl
  | rest => simp [Allows, Request.IsApart] at h
  | ready => simp [Allows, Request.IsApart] at h
  | _ => simp [Allows] at h

end EnginePhase

/-! ## Where turns end -/

/-- The phases in which a turn may end: those in which a run rests and, if runs wait for
    preparations, the one in which a preparation has not been noted yet. -/
def EnginePhase.Pauses (pauses : Request → Bool) (p : EnginePhase) : Prop :=
  p.isResting ∨ p = .booted ∧ pauses .boot = true

theorem EnginePhase.pauses_next {pauses : Request → Bool}
    (hpauses : ∀ q, pauses q → q.isAwaited) (p : EnginePhase) (q : Request) (r : q.Reply)
    (hq : pauses q) (hallows : p.Allows logs q) : (p.next q r).Pauses pauses := by
  cases q with
  | generate prompt instruction =>
      cases p with
      | rest | ready => exact .inl rfl
      | _ => simp [Allows] at hallows
  | boot =>
      obtain rfl := eq_announced_of_allows hallows
      change Pauses pauses (if r.result.isOk then .booted else .rest)
      split
      · exact .inr ⟨rfl, hq⟩
      · exact .inl rfl
  | runCode code =>
      obtain rfl := eq_ready_of_allows hallows
      exact .inl rfl
  | _ => exact absurd (hpauses _ hq) (by simp [Request.isAwaited])

variable (c : Collaborators) {pauses : Request → Bool}

theorem EnginePhase.Agrees.frame {p : EnginePhase} {w w' : World} (h : p.Agrees w)
    (hp : p.Pauses pauses) (hw : w.Precedes w') : p.Agrees w' := by
  cases p with
  | rest => trivial
  | ready => exact hw.engineReady h
  | booted => exact hw.hasBooted h
  | cold | announced =>
      rcases hp with hp | hp
      · cases hp
      · cases hp.1

end AgentScript
