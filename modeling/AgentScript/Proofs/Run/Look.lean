import AgentScript.Proofs.Run.Requests
import AgentScript.Proofs.Run.World

set_option autoImplicit false

/-! # Looking before writing

An action *looks* if it changes neither the run nor the workspace, lines in the log of actions
aside (`RunM.Looks`). An action is *intact* if it has only looked whenever it fails
(`RunM.Intact`): so is one that first looks, which may fail, and then writes, which may not. -/

namespace AgentScript

variable {α β : Type}

/-! ## Looking around in a world -/

namespace World

/-- The second world is the first one later on, with no code run in between, and with its workspace
    as it was but for so many new lines in the log of actions. -/
structure Spares (lines : Nat) (w w' : World) : Prop where
  workspace : ∃ added : List String, added.length ≤ lines
    ∧ w'.workspace = { w.workspace with actionLog := w.workspace.actionLog ++ added }
  journal : ∃ gained, w'.journal = w.journal ++ gained ∧ ∀ e ∈ gained, e.code? = none

theorem Spares.refl (w : World) : w.Spares 0 w where
  workspace := ⟨[], Nat.le_refl 0, by rw [List.append_nil]⟩
  journal := ⟨[], (List.append_nil _).symm, List.forall_mem_nil _⟩

theorem Spares.trans {m n : Nat} {w between w' : World} (h : w.Spares m between)
    (h' : between.Spares n w') : w.Spares (m + n) w' := by
  obtain ⟨⟨added, hlines, hworkspace⟩, gained, hjournal, hcode⟩ := h
  obtain ⟨⟨added', hlines', hworkspace'⟩, gained', hjournal', hcode'⟩ := h'
  constructor
  · refine ⟨added ++ added', ?_, ?_⟩
    · rw [List.length_append]
      omega
    · rw [hworkspace', hworkspace, List.append_assoc]
  · refine ⟨gained ++ gained', ?_, List.forall_mem_append.2 ⟨hcode, hcode'⟩⟩
    rw [hjournal', hjournal, List.append_assoc]

theorem Spares.mono {m n : Nat} {w w' : World} (h : w.Spares m w') (hmn : m ≤ n) :
    w.Spares n w' := by
  obtain ⟨⟨added, hlines, hworkspace⟩, hjournal⟩ := h
  exact ⟨⟨added, Nat.le_trans hlines hmn, hworkspace⟩, hjournal⟩

end World

/-- The requests that leave the workspace as it is and run no code. -/
def Request.isLook : Request → Bool
  | .noteContent _ | .findFile _ | .render _ | .generate _ _ | .engineState | .boot | .engineReady
  | .deliver _ _ | .trace _ => true
  | _ => false

namespace World

variable (c : Collaborators) (w : World)

theorem answer_journal_spares (q : Request) (hq : ∀ code, q ≠ .runCode code) :
    ∃ gained, (w.answer c q).2.journal = w.journal ++ gained ∧ ∀ e ∈ gained, e.code? = none := by
  refine ⟨_, w.answer_journal c q, ?_⟩
  split
  · refine List.forall_mem_singleton.2 ?_
    cases q with
    | runCode code => exact absurd rfl (hq code)
    | _ => rfl
  · exact List.forall_mem_nil _

theorem spares_of_unchanged {q : Request} (hq : ∀ code, q ≠ .runCode code)
    (h : (w.answer c q).2.workspace = w.workspace) : w.Spares 0 (w.answer c q).2 := by
  refine ⟨⟨[], Nat.le_refl 0, ?_⟩, w.answer_journal_spares c q hq⟩
  rw [h, List.append_nil]

theorem answer_spares {q : Request} (hq : q.isLook) : w.Spares 0 (w.answer c q).2 := by
  have hcode : ∀ code, q ≠ .runCode code := by
    rintro code rfl
    cases hq
  have hworkspace : (w.answer c q).2.workspace = w.workspace := by
    cases q with
    | noteContent | findFile | render | generate | engineState | boot | engineReady | deliver
    | trace => rfl
    | _ => cases hq
  exact w.spares_of_unchanged c hcode hworkspace

theorem answer_logAction_spares (message : String) :
    w.Spares 1 (w.answer c (.logAction message)).2 :=
  ⟨⟨[message], Nat.le_refl 1, rfl⟩, w.answer_journal_spares c _ fun _ => nofun⟩

/-- A dialogue that only looks spares the world that it is played in. -/
theorem play_spares {ends : α → Prop} {d : Dialogue α}
    (h : d.Keeps (fun _ => True) (fun q => q.isLook) ends) :
    ends (w.play c d).1 ∧ w.Spares 0 (w.play c d).2 := by
  induction d generalizing w with
  | done a => exact ⟨h, .refl w⟩
  | ask q next ih =>
      obtain ⟨hq, hnext⟩ := h
      obtain ⟨hends, hspares⟩ := ih _ (w.answer c q).2 (hnext _ (q.failsIn_all _))
      exact ⟨hends, (w.answer_spares c hq).trans hspares⟩

/-- An action that goes on with another one is played by playing both in turn. -/
theorem play_from_bind (x : RunM α) (f : α → RunM β) (run : Run) :
    w.play c ((x >>= f).from run)
      = (w.play c (x.from run)).2.play c (RunM.andThen f (w.play c (x.from run)).1) := by
  rw [RunM.from_bind, play_bind]

end World

/-! ## Actions that only look -/

/-- What only looks. -/
def looking : Footprint :=
  ⟨fun q => q.isLook, fun run after => after = run⟩

theorem covers_looking : looking.Covers fun _ => True where
  own _ _ := trivial
  trace _ := rfl
  refl _ := rfl
  trans h h' := h'.trans h

namespace RunM

/-- An action that leaves the run and the workspace as they are, but for so many new lines in the
    log of actions. -/
def Looks (lines : Nat) (x : RunM α) : Prop :=
  ∀ (c : Collaborators) (w : World) (run : Run),
    (w.play c (x.from run)).1.2 = run ∧ w.Spares lines (w.play c (x.from run)).2

/-- An action that does no more than look if it fails. -/
def Intact (lines : Nat) (x : RunM α) : Prop :=
  ∀ (c : Collaborators) (w : World) (run : Run) (f : Failure),
    (w.play c (x.from run)).1.1 = .error f →
      (w.play c (x.from run)).1.2 = run ∧ w.Spares lines (w.play c (x.from run)).2

/-- An action that does not fail. -/
def Succeeds (x : RunM α) : Prop :=
  ∀ (c : Collaborators) (w : World) (run : Run) (f : Failure),
    (w.play c (x.from run)).1.1 ≠ .error f

namespace Looks

variable {m n : Nat} {x : RunM α}

theorem bind {f : α → RunM β} (hx : x.Looks m) (hf : ∀ a, (f a).Looks n) :
    (x >>= f).Looks (m + n) := by
  intro c w run
  obtain ⟨hrun, hworld⟩ := hx c w run
  rw [World.play_from_bind]
  generalize w.play c (x.from run) = played at hrun hworld ⊢
  obtain ⟨⟨e | a, after⟩, w'⟩ := played
  · exact ⟨hrun, hworld.mono (Nat.le_add_right m n)⟩
  · obtain rfl : after = run := hrun
    obtain ⟨hrun', hworld'⟩ := hf a c w' after
    exact ⟨hrun', hworld.trans hworld'⟩

/-- What adds no line may come first. -/
theorem first {f : α → RunM β} (hx : x.Looks 0) (hf : ∀ a, (f a).Looks n) : (x >>= f).Looks n := by
  have h := hx.bind hf
  rwa [Nat.zero_add] at h

theorem mono (hx : x.Looks m) (hmn : m ≤ n) : x.Looks n :=
  fun c w run => (hx c w run).imp_right (·.mono hmn)

/-- What keeps to looking looks. -/
theorem of_keeps (hx : x.Keeps (fun _ => True) looking fun _ => True) : x.Looks 0 := by
  intro c w run
  obtain ⟨hends, hspares⟩ := w.play_spares c (hx run)
  exact ⟨hends.moves, hspares⟩

theorem request {q : Request} (hq : q.isLook) : (request q).Looks 0 :=
  fun c w _ => ⟨rfl, w.answer_spares c hq⟩

theorem logAction (message : String) : (logAction message).Looks 1 :=
  fun c w _ => ⟨rfl, w.answer_logAction_spares c message⟩

theorem fail (f : Failure) : (fail f : RunM α).Looks 0 :=
  .of_keeps (.fail covers_looking trivial)

theorem resolve (text : String) : (resolve text).Looks 0 :=
  .of_keeps (resolve_keeps covers_looking text)

theorem resolve? (text : Option String) : (resolve? text).Looks 0 :=
  .of_keeps (resolve?_keeps covers_looking text)

theorem require (name : String) (holds : Bool) (fault : CommandFault) :
    (require name holds fault).Looks 0 :=
  .of_keeps (require_keeps covers_looking name holds fault)

theorem generate (prompt : String) (instruction : Option String) {refused : String → Failure}
    (hrefused : ∀ reply, IsOrdinary (refused reply)) :
    (generate prompt instruction refused).Looks 0 :=
  .of_keeps (generate_keeps covers_looking rfl hrefused)

/-- Preparing the sandbox adds the line that says so. -/
theorem ensureEngine : ensureEngine.Looks 1 := by
  have hstate : (RunM.request .engineState).Looks 0 := .request rfl
  refine .first hstate fun state => ?_
  cases state with
  | absent => exact .mono (.fail _) (Nat.zero_le 1)
  | ready => exact .mono (.of_keeps (.pure covers_looking trivial)) (Nat.zero_le 1)
  | cold =>
      refine .bind (n := 0) (.logAction _) fun _ => .of_keeps ?_
      refine .bind covers_looking (.request covers_looking rfl) fun boot _ => ?_
      refine .bind covers_looking (.forM covers_looking _ fun _ => .request covers_looking rfl)
        fun _ _ => ?_
      obtain ⟨notes, f | a⟩ := boot
      · exact .fail covers_looking trivial
      · exact .trivially (.request covers_looking rfl)

end Looks

namespace Intact

variable {m n : Nat} {x : RunM α} {f : α → RunM β}

theorem of_looks (hx : x.Looks 0) : x.Intact n :=
  fun c w run _ _ => (hx c w run).imp_right (·.mono (Nat.zero_le n))

theorem of_succeeds (hx : x.Succeeds) : x.Intact n :=
  fun c w run f hf => absurd hf (hx c w run f)

/-- What only looks may come first. -/
theorem bind (hx : x.Looks m) (hf : ∀ a, (f a).Intact n) : (x >>= f).Intact (m + n) := by
  intro c w run e he
  obtain ⟨hrun, hworld⟩ := hx c w run
  rw [World.play_from_bind] at he ⊢
  generalize w.play c (x.from run) = played at hrun hworld he ⊢
  obtain ⟨⟨e' | a, after⟩, w'⟩ := played
  · exact ⟨hrun, hworld.mono (Nat.le_add_right m n)⟩
  · obtain rfl : after = run := hrun
    obtain ⟨hrun', hworld'⟩ := hf a c w' after e he
    exact ⟨hrun', hworld.trans hworld'⟩

theorem first (hx : x.Looks 0) (hf : ∀ a, (f a).Intact n) : (x >>= f).Intact n := by
  have h := Intact.bind hx hf
  rwa [Nat.zero_add] at h

/-- What does not fail may come last. -/
theorem last (hx : x.Intact n) (hf : ∀ a, (f a).Succeeds) : (x >>= f).Intact n := by
  intro c w run e he
  have hfails := hx c w run
  rw [World.play_from_bind] at he ⊢
  generalize w.play c (x.from run) = played at hfails he ⊢
  obtain ⟨⟨e' | a, after⟩, w'⟩ := played
  · exact hfails e' rfl
  · exact absurd he (hf a c w' after e)

end Intact

theorem succeeds_modify (f : Run → Run) : (modify f : RunM Unit).Succeeds :=
  fun _ _ _ _ => nofun

theorem succeeds_request (q : Request) : (request q).Succeeds :=
  fun _ _ _ _ => nofun

/-- A request that is refused just in case it finds nothing to change. -/
theorem Intact.refuse {n : Nat} {q : Request} {found : q.Reply → Bool} {name : String}
    {fault : CommandFault}
    (h : ∀ (c : Collaborators) (w : World), found (w.answer c q).1 = false →
      w.Spares 0 (w.answer c q).2) :
    (request q >>= fun reply => require name (found reply) fault).Intact n := by
  intro c w run f hf
  rw [World.play_from_bind] at hf ⊢
  change (World.play c (w.answer c q).2
    ((require name (found (w.answer c q).1) fault).from run)).1.1 = .error f at hf
  change (World.play c (w.answer c q).2
      ((require name (found (w.answer c q).1) fault).from run)).1.2 = run
    ∧ w.Spares n (World.play c (w.answer c q).2
      ((require name (found (w.answer c q).1) fault).from run)).2
  have hspares := h c w
  cases hfound : found (w.answer c q).1 with
  | true =>
      rw [hfound] at hf
      cases hf
  | false => exact ⟨rfl, (hspares hfound).mono (Nat.zero_le n)⟩

end RunM

end AgentScript
