import AgentScript.Proofs.Interleaving.Account

set_option autoImplicit false

/-! # Preparing a shared sandbox

The invariants that the phases keep say in which order the sandbox of a world is announced,
prepared and used, whatever the schedule (`EngineSound`, `Settled`). Together with the account of
what all the turns add up to, they say how often and when scripts that share a world prepare its
sandbox (`World.runTogether_boots`). -/

namespace AgentScript

variable {α : Type} {logs : String → Prop}

/-! ## The order of exchanges with the sandbox -/

/-- What stands in a journal before each of its exchanges is as `R` says. -/
def EachAfter (R : List Exchange → Exchange → Prop) (journal : List Exchange) : Prop :=
  ∀ earlier e later, journal = earlier ++ e :: later → R earlier e

theorem EachAfter.snoc {R : List Exchange → Exchange → Prop} {journal : List Exchange}
    {e : Exchange} (h : EachAfter R journal) (he : R journal e) :
    EachAfter R (journal ++ [e]) := by
  intro earlier e' later hsplit
  rcases List.eq_nil_or_concat later with rfl | ⟨later, last, rfl⟩
  · obtain ⟨rfl, hlast⟩ := List.append_inj' hsplit rfl
    obtain rfl := List.singleton_inj.1 hlast
    exact he
  · refine h earlier e' later ?_
    rw [List.concat_eq_append, ← List.cons_append, ← List.append_assoc] at hsplit
    exact (List.append_inj' hsplit rfl).1

/-- What stands before an exchange with the sandbox: before a preparation its announcement, before
    code a preparation that has succeeded. If runs do not wait for preparations, there is none
    after one that has succeeded. -/
structure InOrder (exclusive : Prop) (earlier : List Exchange) (e : Exchange) : Prop where
  announced : e.isBoot → ∃ before, earlier = before ++ [.announcement]
  prepared : e.code?.isSome → HasBooted earlier
  once : exclusive → e.isBoot → ¬ HasBooted earlier

/-- The order of the exchanges, together with what the world knows of them. -/
structure EngineSound (exclusive : Prop) (p : EnginePhase) (w : World) : Prop where
  agrees : p.Agrees w
  inOrder : EachAfter (InOrder exclusive) w.journal
  noted : w.engineReady = true → HasBooted w.journal
  settled : exclusive → p ≠ .booted → HasBooted w.journal → w.engineReady = true

namespace EngineSound

variable {exclusive : Prop} {p : EnginePhase} {w : World} (c : Collaborators)

theorem inOrder_answer (h : EngineSound exclusive p w) {q : Request} (hq : p.Allows logs q) :
    EachAfter (InOrder exclusive) (w.answer c q).2.journal := by
  rw [World.answer_journal]
  split
  · refine h.inOrder.snoc ⟨fun hboot => ?_, fun hcode => ?_, fun hex hboot => ?_⟩
    · cases q with
      | boot =>
          obtain rfl := EnginePhase.eq_announced_of_allows hq
          exact h.agrees.2
      | _ => cases hboot
    · cases q with
      | runCode code =>
          obtain rfl := EnginePhase.eq_ready_of_allows hq
          exact h.noted h.agrees
      | _ => cases hcode
    · cases q with
      | boot =>
          obtain rfl := EnginePhase.eq_announced_of_allows hq
          intro hbooted
          have hready := h.settled hex (by decide) hbooted
          exact absurd (hready.symm.trans h.agrees.1) (by decide)
      | _ => cases hboot
  · rw [List.append_nil]
    exact h.inOrder

theorem noted_answer (h : EngineSound exclusive p w) {q : Request} (hq : p.Allows logs q)
    (hready : (w.answer c q).2.engineReady = true) : HasBooted (w.answer c q).2.journal := by
  refine (w.precedes_answer c q).hasBooted ?_
  by_cases hnote : q = .engineReady
  · obtain rfl := hnote
    obtain rfl := EnginePhase.eq_booted_of_allows hq
    exact h.agrees
  · rw [World.answer_engineReady c hnote] at hready
    exact h.noted hready

theorem settled_answer (h : EngineSound exclusive p w) {q : Request} (hq : p.Allows logs q)
    (hex : exclusive) (hnext : p.next q (w.answer c q).1 ≠ .booted)
    (hbooted : HasBooted (w.answer c q).2.journal) : (w.answer c q).2.engineReady = true := by
  by_cases hp : p = .booted
  · obtain rfl := hp
    rcases hq with rfl | ⟨record, rfl⟩
    · rfl
    · exact absurd rfl hnext
  · obtain ⟨e, he, hsuccess⟩ := hbooted
    rw [World.answer_journal] at he
    rcases List.mem_append.1 he with he | he
    · exact (w.precedes_answer c q).engineReady (h.settled hex hp ⟨e, he, hsuccess⟩)
    · -- a preparation that succeeds leads to the phase in which it has not been noted yet
      split at he
      · obtain rfl := List.mem_singleton.1 he
        cases q with
        | boot =>
            obtain rfl := EnginePhase.eq_announced_of_allows hq
            exact absurd (if_pos hsuccess) hnext
        | _ => cases hsuccess
      · cases he

theorem answer (h : EngineSound exclusive p w) {q : Request} (hq : p.Allows logs q) :
    EngineSound exclusive (p.next q (w.answer c q).1) (w.answer c q).2 where
  agrees := h.agrees.answer c hq
  inOrder := h.inOrder_answer c hq
  noted := h.noted_answer c hq
  settled hex hnext hbooted := h.settled_answer c hq hex hnext hbooted

end EngineSound

variable (c : Collaborators) {pauses : Request → Bool}

theorem engineSound_invariant :
    IsEngineInvariant c logs (EnginePhase.Pauses pauses) (EngineSound (pauses .boot = false)) where
  step p w q hq h := h.answer c hq
  frame p p' w w' hp hp' h h' hw := by
    refine ⟨h.agrees.frame hp hw, h'.inOrder, h'.noted, fun hex _ => h'.settled hex ?_⟩
    rintro rfl
    rcases hp' with hp' | ⟨-, hboot⟩
    · cases hp'
    · exact absurd (hboot.symm.trans hex) (by decide)

/-! ## No preparation once one has been noted -/

/-- Since the world was `v`, the sandbox has not been prepared again, if it was known to be prepared
    then. -/
structure Settled (v : World) (p : EnginePhase) (w : World) : Prop where
  agrees : p.Agrees w
  precedes : v.Precedes w
  quiet : v.engineReady = true → ∃ gained, w.journal = v.journal ++ gained
    ∧ ∀ e ∈ gained, e.isBoot = false

theorem settled_invariant (v : World) :
    IsEngineInvariant c logs (EnginePhase.Pauses pauses) (Settled v) where
  step p w q hq h := by
    refine ⟨h.agrees.answer c hq, h.precedes.trans (w.precedes_answer c q), fun hready => ?_⟩
    obtain ⟨gained, hjournal, hgained⟩ := h.quiet hready
    rw [World.answer_journal, hjournal, List.append_assoc]
    refine ⟨_, rfl, List.forall_mem_append.2 ⟨hgained, fun e he => ?_⟩⟩
    split at he
    · obtain rfl := List.mem_singleton.1 he
      cases q with
      | boot =>
          obtain rfl := EnginePhase.eq_announced_of_allows hq
          have hprepared := h.precedes.engineReady hready
          exact absurd (hprepared.symm.trans h.agrees.1) (by decide)
      | _ => rfl
    · cases he
  frame p p' w w' hp hp' h h' hw := ⟨h.agrees.frame hp hw, h'.precedes, h'.quiet⟩

theorem World.interleave_quiet (hpauses : ∀ q, pauses q → q.isAwaited) {ds : List (Dialogue α)}
    {v : World} (hready : v.engineReady = true)
    (hds : ∀ d ∈ ds, d.Tracks logs (EnginePhase.Pauses pauses) (fun p w => p.Agrees w) v)
    (schedule : List Nat) :
    ∃ gained, (v.interleave c pauses schedule ds).2.journal = v.journal ++ gained
      ∧ ∀ e ∈ gained, e.isBoot = false := by
  have hsettled {p : EnginePhase} (h : p.Agrees v) : Settled v p v :=
    ⟨h, .refl v, fun _ => ⟨[], (List.append_nil _).symm, List.forall_mem_nil _⟩⟩
  have hinvariant : IsEngineInvariant c logs (EnginePhase.Pauses pauses) (Settled v) :=
    settled_invariant c v
  have htracked : ∀ d ∈ ds, d.Tracks logs (EnginePhase.Pauses pauses) (Settled v) v := by
    intro d hd
    obtain ⟨p, hp, hpv, hd⟩ := hds d hd
    exact ⟨p, hp, hsettled hpv, hd⟩
  obtain ⟨hend, -⟩ := interleave_tracks hinvariant (fun p hp => .inl hp)
    (EnginePhase.pauses_next hpauses) schedule (hsettled trivial) htracked
  exact hend.quiet hready

/-! ## Trying again -/

/-- Code that is about to run in a world where the sandbox is there but not prepared has it
    announced and prepared first. -/
theorem World.turn_execute_cold (pauses : Request → Bool) {s : Sandbox} (hs : c.sandbox = some s)
    (hpauses : ∀ q, pauses q → q.isAwaited) {w : World} (hw : w.engineReady = false)
    (code : String) (next : Unit → RunM α) (run : Run) :
    ∃ gained, (w.turn c pauses ((RunM.execute code >>= next).from run)).2.journal
      = w.journal ++ .announcement :: ⟨.boot, s.boot (w.journal.countP Exchange.isBoot)⟩ ::
        gained := by
  have hstate : w.engineState c = .cold := by
    rw [engineState, hs, hw]
    rfl
  obtain ⟨asked, prepared, hasked, hcold⟩ : ∃ asked prepared,
      (RunM.execute code >>= next).from run = .ask .engineState asked
        ∧ asked .cold = .ask (.logAction bootLine) fun _ => .ask .boot prepared :=
    ⟨_, _, rfl, rfl⟩
  have hpause {q : Request} (hq : q.isAwaited = false) : ¬ pauses q := fun h =>
    absurd ((hpauses q h).symm.trans hq) (by decide)
  have hturn : w.turn c pauses ((RunM.execute code >>= next).from run)
      = (w.answer c (.logAction bootLine)).2.turn c pauses (.ask .boot prepared) := by
    rw [hasked, turn_ask, if_neg (hpause rfl)]
    change w.turn c pauses (asked (w.engineState c)) = _
    rw [hstate, hcold, turn_ask, if_neg (hpause rfl)]
  have hboot : ((w.answer c (.logAction bootLine)).2.answer c .boot).2.journal
      = w.journal ++ [.announcement, ⟨.boot, s.boot (w.journal.countP Exchange.isBoot)⟩] := by
    simp [answer, respond, isJournaled, boot, hs, Exchange.announcement, Exchange.isBoot]
  -- whether the run waits there or goes on, this is what the journal begins with
  have hlater : ((w.answer c (.logAction bootLine)).2.answer c .boot).2.journal
      <+: (w.turn c pauses ((RunM.execute code >>= next).from run)).2.journal := by
    rw [hturn, turn_ask]
    split
    · exact List.prefix_rfl
    · exact (precedes_turn c pauses _ _).journal
  obtain ⟨gained, hgained⟩ := hlater
  refine ⟨gained, ?_⟩
  rw [← hgained, hboot, List.append_assoc]
  rfl

/-! ## Scripts that share a sandbox -/

/-- How scripts that share a world prepare its sandbox. -/
structure BootsInTurn (c : Collaborators) (pauses : Request → Bool) (start : World)
    (schedule : List Nat) (scripts : List (String × Value)) (w : World) : Prop where
  /-- Every preparation follows its announcement at once. -/
  announced : ∀ earlier e later, w.journal = earlier ++ e :: later → e.isBoot →
    ∃ before, earlier = before ++ [.announcement]
  /-- No code runs before a preparation has succeeded. -/
  prepared : ∀ earlier e later, w.journal = earlier ++ e :: later → e.code?.isSome →
    HasBooted earlier
  /-- There are as many announcements as preparations just in case none of the log calls that the
      scripts have made has logged such a line. -/
  counted : w.workspace.actionLog.count bootLine
      = start.workspace.actionLog.count bootLine + w.journal.countP Exchange.isBoot
    ↔ ∀ i s, scripts[i]? = some s → ∀ deed,
      (runScript s.1 s.2).Makes (start.scriptCalls c pauses schedule scripts i) deed →
        ¬ deed.Logs bootLine
  /-- It is noted that the sandbox is prepared as soon as a script goes on that has prepared it. -/
  noted : w.engineReady = true
    ↔ ∃ i < scripts.length, GoesOn (start.scriptCalls c pauses schedule scripts i)
  /-- Once it has been noted that the sandbox is prepared, no later turn prepares it again. -/
  quiet : w.engineReady = true → ∀ more, ∃ gained,
    (start.runTogether c pauses (schedule ++ more) scripts).2.journal = w.journal ++ gained
      ∧ ∀ e ∈ gained, e.isBoot = false
  /-- If runs do not wait for preparations, there is none after one that has succeeded. -/
  once : pauses .boot = false → ∀ earlier e later, w.journal = earlier ++ e :: later →
    e.hasBooted → ∀ boot ∈ later, boot.isBoot = false
  /-- Unless a preparation has succeeded and this has been noted, code that is about to run has the
      sandbox prepared first. -/
  retried : ¬ (HasBooted w.journal ∧ w.engineReady = true) → ∀ s ∈ c.sandbox,
    ∀ (code : String) (next : Unit → RunM Unit) (run : Run), ∃ gained,
      (w.turn c pauses ((RunM.execute code >>= next).from run)).2.journal
        = w.journal ++ .announcement :: ⟨.boot, s.boot (w.journal.countP Exchange.isBoot)⟩ ::
          gained

namespace World

theorem runTogether_invariant {c : Collaborators} {pauses : Request → Bool}
    (hpauses : ∀ q, pauses q → q.isAwaited) {I : EnginePhase → World → Prop}
    (hI : IsEngineInvariant c RunM.anyLine (EnginePhase.Pauses pauses) I) {w : World}
    (hw : I .rest w) (schedule : List Nat) (scripts : List (String × Value)) :
    I .rest (w.runTogether c pauses schedule scripts).2
      ∧ ∀ d ∈ (w.runTogether c pauses schedule scripts).1,
        d.Tracks RunM.anyLine (EnginePhase.Pauses pauses) I
          (w.runTogether c pauses schedule scripts).2 := by
  refine interleave_tracks hI (fun p hp => .inl hp) (EnginePhase.pauses_next hpauses) schedule hw
    fun d hd => ?_
  obtain ⟨s, -, rfl⟩ := List.mem_map.1 hd
  exact ⟨.rest, .inl rfl, hw, runScript_follows s.1 s.2⟩

/-- Scripts that share a world, whatever the schedule, have its sandbox announced and then prepared
    before the first code runs in it, and again until a script goes on that has prepared it. From
    then on there is no other preparation. -/
theorem runTogether_boots (c : Collaborators) {pauses : Request → Bool}
    (hpauses : ∀ q, pauses q → q.isAwaited) (workspace : Workspace) (level : Nat)
    (schedule : List Nat) (scripts : List (String × Value)) :
    BootsInTurn c pauses (initial workspace level) schedule scripts
      ((initial workspace level).runTogether c pauses schedule scripts).2 := by
  have hstart : EngineSound (pauses .boot = false) .rest (initial workspace level) :=
    { agrees := trivial
      inOrder := fun earlier e later h => by simp [initial] at h
      noted := nofun
      settled := fun _ _ ⟨e, he, _⟩ => (nomatch he) }
  obtain ⟨hsound, htracks⟩ :=
    runTogether_invariant hpauses (engineSound_invariant c) hstart schedule scripts
  constructor
  case announced => exact fun earlier e later h => (hsound.inOrder earlier e later h).announced
  case prepared => exact fun earlier e later h => (hsound.inOrder earlier e later h).prepared
  case counted => exact runTogether_announces c hpauses rfl schedule scripts
  case noted => exact runTogether_engineReady c hpauses rfl schedule scripts
  case quiet =>
    intro hready more
    rw [runTogether, interleave_append]
    have hagree : ∀ d ∈ ((initial workspace level).runTogether c pauses schedule scripts).1,
        d.Tracks RunM.anyLine (EnginePhase.Pauses pauses) (fun p w => p.Agrees w)
          ((initial workspace level).runTogether c pauses schedule scripts).2 := fun d hd => by
      obtain ⟨p, hp, hpw, hd⟩ := htracks d hd
      exact ⟨p, hp, hpw.agrees, hd⟩
    exact interleave_quiet c hpauses hready hagree more
  case once =>
    intro hex earlier e later hsplit hsuccess boot hboot
    obtain ⟨between, rest, rfl⟩ := List.append_of_mem hboot
    rw [← List.cons_append, ← List.append_assoc] at hsplit
    refine Bool.eq_false_of_not_eq_true fun hagain => ?_
    exact (hsound.inOrder _ _ _ hsplit).once hex hagain
      ⟨e, List.mem_append_right _ List.mem_cons_self, hsuccess⟩
  case retried =>
    intro hnot s hs code next run
    exact turn_execute_cold c pauses hs hpauses
      (Bool.eq_false_of_not_eq_true fun hready => hnot ⟨hsound.noted hready, hready⟩) code next run

end World

/-- Collaborators with a sandbox. -/
def Collaborators.sandboxed (s : Sandbox) : Collaborators :=
  { Collaborators.replying fun prompt _ => .ok prompt with sandbox := some s }

/-- A sandbox that cannot be prepared at the first attempt. -/
def Sandbox.late : Sandbox where
  boot attempt := if attempt = 0 then { result := .error (.raised "OSError" none) } else {}
  run _ _ := .finish (.ok .null)

/-- Two scripts that run code. -/
def codeRunners : List (String × Value) :=
  List.replicate 2 ("start beforePrompt\nexecute(return 1)\nend beforePrompt", .str "")

/-- The first script fails to prepare the sandbox, the second one prepares it. -/
theorem World.runTogether_boots_late :
    ((initial {} 0).runTogether (.sandboxed .late) Request.isAwaited [0, 1, 0, 1, 1]
        codeRunners).2.journal.countP Exchange.isBoot = 2
      ∧ BootsInTurn (.sandboxed .late) Request.isAwaited (initial {} 0) [0, 1, 0, 1, 1] codeRunners
        ((initial {} 0).runTogether (.sandboxed .late) Request.isAwaited [0, 1, 0, 1, 1]
          codeRunners).2 :=
  ⟨by decide +kernel, runTogether_boots _ (fun _ hq => hq) _ _ _ _⟩

/-- A sandbox that is prepared at once, and in which all code ends with one. -/
def Sandbox.prompt : Sandbox where
  boot _ := {}
  run _ _ := .finish (.ok (.int 1))

/-- A script that logs the announcement itself before it runs code. -/
def announcer : String :=
  "start beforePrompt\nlog(\"Booting Python Engine...\")\nexecute(return 1)\nend beforePrompt"

/-- Two preparations succeed if two runs wait for them at the same time, and there are more
    announcements than preparations if a script logs them itself. -/
theorem World.runTogether_boots_twice :
    ((initial {} 0).runTogether (.sandboxed .prompt) Request.isAwaited [0, 1, 0, 1]
        codeRunners).2.journal.countP Exchange.hasBooted = 2
      ∧ ((initial {} 0).play (.sandboxed .prompt) (runScript announcer (.str ""))).2.journal.countP
        Exchange.isBoot = 1
      ∧ ((initial {} 0).play (.sandboxed .prompt)
        (runScript announcer (.str ""))).2.workspace.actionLog.count bootLine = 2 := by
  decide +kernel

end AgentScript
