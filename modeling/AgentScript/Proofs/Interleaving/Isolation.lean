import AgentScript.Interleaving
import AgentScript.Proofs.Interleaving.Merge
import AgentScript.Proofs.Run.Additive
import AgentScript.Proofs.Run.World
import Mathlib.Algebra.Order.BigOperators.Group.List
import Mathlib.Algebra.Order.Group.Nat

set_option autoImplicit false

/-! # Runs that do not disturb each other

Scripts that only add to the workspace may share it: whatever the schedule, each of them ends as it
ends alone, and the lists of the workspace gain a merge of what each of them adds alone
(`World.runTogether_isolated`). A dialogue that only adds is told the same things in every world, so
its whole course is fixed from the start (`Dialogue.course`); a turn takes the first part of it away
(`World.turn_course`). -/

namespace AgentScript

variable {α : Type}

/-! ## Replies that do not depend on the world -/

/-- A generator whose replies depend on nothing but the prompt and the instruction. -/
def Collaborators.IsSteady (c : Collaborators) : Prop :=
  ∀ earlier earlier' prompt instruction,
    c.generator earlier prompt instruction = c.generator earlier' prompt instruction

theorem World.answer_reply_eq {c : Collaborators} (hc : c.IsSteady) {q : Request}
    (hq : q.isAdditive) (w w' : World) : (w.answer c q).1 = (w'.answer c q).1 := by
  cases q with
  | generate prompt instruction => exact hc _ _ _ _
  | logAction | addMessage | addNote | addFile | playMusic | render | trace => rfl
  | _ => cases hq

/-! ## What requests add to a workspace -/

namespace Request

/-- The notes that a request adds. -/
def notes : Request → List Note
  | .addNote title content => [⟨title, content⟩]
  | _ => []

/-- The files that a request adds. -/
def files : Request → List UserFile
  | .addFile file => [file]
  | _ => []

/-- The lines that a request adds to the log of actions. -/
def logged : Request → List String
  | .logAction message => [message]
  | _ => []

/-- The tracks that a request plays. -/
def played : Request → List String
  | .playMusic track => [track]
  | _ => []

end Request

/-- A workspace after some additive requests. -/
def Workspace.gain (w : Workspace) (qs : List Request) : Workspace :=
  { w with
    notes := w.notes ++ qs.flatMap Request.notes
    files := w.files ++ qs.flatMap Request.files
    messages := w.messages ++ qs.flatMap Request.posted
    actionLog := w.actionLog ++ qs.flatMap Request.logged
    playedTracks := w.playedTracks ++ qs.flatMap Request.played }

theorem Workspace.gain_nil (w : Workspace) : w.gain [] = w := by
  simp [gain]

theorem Workspace.gain_append (w : Workspace) (qs qs' : List Request) :
    w.gain (qs ++ qs') = (w.gain qs).gain qs' := by
  simp [gain]

theorem World.answer_workspace (c : Collaborators) (w : World) {q : Request} (hq : q.isAdditive) :
    (w.answer c q).2.workspace = w.workspace.gain [q] := by
  cases q with
  | logAction | addMessage | addNote | addFile | playMusic | render | generate | trace =>
      simp [answer, respond, isJournaled, Workspace.gain, setWorkspace, Workspace.addNote,
        Workspace.addFile, Workspace.addMessage, Workspace.logAction, Workspace.playMusic,
        Request.notes, Request.files, Request.posted, Request.logged, Request.played]
  | _ => cases hq

/-! ## The course of a dialogue -/

/-- How a dialogue ends, and the requests that it puts until then, if every request is answered with
    the same reply whenever it is put. -/
def Dialogue.course (reply : (q : Request) → q.Reply) : Dialogue α → α × List Request
  | .done a => (a, [])
  | .ask q next =>
    (((next (reply q)).course reply).1, q :: ((next (reply q)).course reply).2)

theorem Dialogue.eq_done_of_result? {d : Dialogue α} (h : d.result?.isSome) : ∃ a, d = .done a := by
  cases d with
  | done a => exact ⟨a, rfl⟩
  | ask q next => cases h

/-- A dialogue with nothing left to ask for has ended. -/
theorem Dialogue.ended_of_course {reply : (q : Request) → q.Reply} {d : Dialogue α}
    (h : (d.course reply).2 = []) : d.result?.isSome := by
  cases d with
  | done a => rfl
  | ask q next => cases h

theorem Dialogue.OnlyAdds.next {q : Request} {next : q.Reply → Dialogue α}
    (h : (Dialogue.ask q next).OnlyAdds) (r : q.Reply) : (next r).OnlyAdds :=
  h.2 r (q.failsIn_all r)

/-- Every world answers additive requests as `reply` does. -/
def AnswersAs (c : Collaborators) (reply : (q : Request) → q.Reply) : Prop :=
  ∀ (w : World) (q : Request), q.isAdditive → (w.answer c q).1 = reply q

namespace World

variable {c : Collaborators} {reply : (q : Request) → q.Reply} (h : AnswersAs c reply)

include h

/-- A dialogue that only adds takes its course when it is played alone. -/
theorem play_course {d : Dialogue α} (hd : d.OnlyAdds) (w : World) :
    (w.play c d).1 = (d.course reply).1
      ∧ (w.play c d).2.workspace = w.workspace.gain (d.course reply).2 := by
  induction d generalizing w with
  | done a => exact ⟨rfl, w.workspace.gain_nil.symm⟩
  | ask q next ih =>
      have hrest := ih (reply q) (hd.next _) (w.answer c q).2
      rw [play_ask, h w q hd.1]
      refine ⟨hrest.1, hrest.2.trans ?_⟩
      rw [answer_workspace c w hd.1, ← Workspace.gain_append]
      rfl

/-- A turn takes away the first part of the course of a dialogue, and something unless the dialogue
    is done. -/
theorem turn_course (pauses : Request → Bool) {d : Dialogue α} (hd : d.OnlyAdds) (w : World) :
    (w.turn c pauses d).1.OnlyAdds
      ∧ ∃ taken, d.course reply
            = (((w.turn c pauses d).1.course reply).1,
                taken ++ ((w.turn c pauses d).1.course reply).2)
          ∧ (w.turn c pauses d).2.workspace = w.workspace.gain taken
          ∧ (taken = [] → (d.course reply).2 = []) := by
  induction d generalizing w with
  | done a => exact ⟨hd, [], rfl, w.workspace.gain_nil.symm, fun _ => rfl⟩
  | ask q next ih =>
      have hworkspace := answer_workspace c w hd.1
      rw [turn_ask, h w q hd.1]
      split
      · exact ⟨hd.next _, [q], rfl, hworkspace, fun hq => by cases hq⟩
      · -- no pause: the turn goes on with the rest of the dialogue
        obtain ⟨hadds, taken, hcourse, hgain, -⟩ := ih (reply q) (hd.next _) (w.answer c q).2
        refine ⟨hadds, q :: taken, ?_, ?_, fun hq => by cases hq⟩
        · rw [Dialogue.course, hcourse, List.cons_append]
        · rw [hgain, hworkspace, ← Workspace.gain_append]
          rfl

/-! ## Schedules -/

omit h in
theorem map_set_of_eq {β γ : Type} {l : List β} {i : Nat} {b b' : β} {f : β → γ}
    (hi : l[i]? = some b) (hf : f b' = f b) : (l.set i b').map f = l.map f := by
  obtain ⟨hlt, rfl⟩ := List.getElem?_eq_some_iff.1 hi
  rw [List.map_set, hf, ← List.map_set, List.set_getElem_self]

omit h in
theorem onlyAdds_set {ds : List (Dialogue α)} (hds : ∀ d ∈ ds, d.OnlyAdds) {d : Dialogue α}
    (hd : d.OnlyAdds) (i : Nat) : ∀ e ∈ ds.set i d, e.OnlyAdds := by
  intro e he
  rcases List.mem_or_eq_of_mem_set he with he | rfl
  · exact hds e he
  · exact hd

/-- Dialogues that have all ended have taken their courses, and the workspace has gained a merge of
    what they asked for. -/
theorem interleave_course (pauses : Request → Bool) (schedule : List Nat) (ds : List (Dialogue α))
    (hds : ∀ d ∈ ds, d.OnlyAdds) (w : World)
    (hended : ∀ d ∈ (w.interleave c pauses schedule ds).1, d.result?.isSome) :
    (w.interleave c pauses schedule ds).1 = ds.map (fun d => .done (d.course reply).1)
      ∧ ∃ whole, Interleaves (ds.map fun d => (d.course reply).2) whole
        ∧ (w.interleave c pauses schedule ds).2.workspace = w.workspace.gain whole := by
  induction schedule generalizing ds w with
  | nil =>
      refine ⟨?_, [], .nil fun part hpart => ?_, w.workspace.gain_nil.symm⟩
      · refine (List.map_id ds).symm.trans (List.map_congr_left fun d hd => ?_)
        obtain ⟨a, rfl⟩ := Dialogue.eq_done_of_result? (hended d hd)
        rfl
      · obtain ⟨d, hd, rfl⟩ := List.mem_map.1 hpart
        obtain ⟨a, rfl⟩ := Dialogue.eq_done_of_result? (hended d hd)
        rfl
  | cons i schedule ih =>
      rw [interleave] at hended ⊢
      cases hi : ds[i]? with
      | none =>
          rw [hi] at hended
          exact ih ds hds w hended
      | some d =>
          rw [hi] at hended
          obtain ⟨hadds, taken, hcourse, hgain, -⟩ :=
            turn_course h pauses (hds d (List.mem_of_getElem? hi)) w
          obtain ⟨hresults, whole, hmerge, hworkspace⟩ := ih _ (onlyAdds_set hds hadds i) _ hended
          -- what the turn has taken comes before the merge of all that is left
          refine ⟨hresults.trans ?_, taken ++ whole, ?_, hworkspace.trans ?_⟩
          · exact map_set_of_eq hi (by rw [hcourse])
          · rw [List.map_set] at hmerge
            exact hmerge.append (by rw [List.getElem?_map, hi, Option.map_some, hcourse])
          · rw [hgain, Workspace.gain_append]

/-- A turn given to an unfinished dialogue shortens its course. -/
theorem interleave_shortens (pauses : Request → Bool) (schedule : List Nat)
    (ds : List (Dialogue α)) (hds : ∀ d ∈ ds, d.OnlyAdds) (w : World) {i : Nat} {e : Dialogue α}
    (he : (w.interleave c pauses schedule ds).1[i]? = some e) :
    ∃ d, ds[i]? = some d ∧ ((e.course reply).2 = [] ∨
      (e.course reply).2.length + schedule.count i ≤ (d.course reply).2.length) := by
  induction schedule generalizing ds w with
  | nil => exact ⟨e, he, .inr (by simp)⟩
  | cons j schedule ih =>
      rw [interleave] at he
      cases hj : ds[j]? with
      | none =>
          rw [hj] at he
          obtain ⟨d, hd, hcourse⟩ := ih ds hds w he
          have hne : j ≠ i := fun hji => by rw [← hji, hj] at hd; cases hd
          exact ⟨d, hd, by rwa [List.count_cons_of_ne hne]⟩
      | some d =>
          rw [hj] at he
          obtain ⟨hadds, taken, hcourse, -, htaken⟩ :=
            turn_course h pauses (hds d (List.mem_of_getElem? hj)) w
          obtain ⟨d', hd', hshort⟩ := ih _ (onlyAdds_set hds hadds j) _ he
          by_cases hji : j = i
          · subst hji
            have hlt : j < ds.length := (List.getElem?_eq_some_iff.1 hj).1
            rw [List.getElem?_set_self hlt] at hd'
            cases hd'
            have hlength : (d.course reply).2.length
                = taken.length + ((w.turn c pauses d).1.course reply).2.length := by
              rw [hcourse, List.length_append]
            refine ⟨d, hj, ?_⟩
            rcases hshort with hnil | hshort
            · exact .inl hnil
            · by_cases hnil : taken = []
              · -- the dialogue was done already
                rw [htaken hnil, List.length_nil] at hlength
                exact .inl (List.eq_nil_of_length_eq_zero (by omega))
              · have hpos := List.length_pos_iff.2 hnil
                exact .inr (by rw [List.count_cons_self]; omega)
          · -- the turn was another dialogue's
            rw [List.getElem?_set_ne hji] at hd'
            exact ⟨d', hd', by rwa [List.count_cons_of_ne hji]⟩

end World

/-! ## Scripts that share a world -/

/-- A world after some runs: each list of the workspace gains a merge of what the worlds in `alone`,
    in which one of the runs was played, gain in it; the plan stays. -/
structure World.GainsMerge (w : World) (alone : List World) (after : World) : Prop where
  notes : GainsInterleaving w.workspace.notes after.workspace.notes
    (alone.map fun v => v.workspace.notes)
  files : GainsInterleaving w.workspace.files after.workspace.files
    (alone.map fun v => v.workspace.files)
  messages : GainsInterleaving w.workspace.messages after.workspace.messages
    (alone.map fun v => v.workspace.messages)
  actionLog : GainsInterleaving w.workspace.actionLog after.workspace.actionLog
    (alone.map fun v => v.workspace.actionLog)
  playedTracks : GainsInterleaving w.workspace.playedTracks after.workspace.playedTracks
    (alone.map fun v => v.workspace.playedTracks)
  plan : after.workspace.plan = w.workspace.plan

namespace World

theorem gainsMerge_of_course {c : Collaborators} {reply : (q : Request) → q.Reply}
    (h : AnswersAs c reply) {ds : List (Dialogue α)} (hds : ∀ d ∈ ds, d.OnlyAdds)
    {w after : World} {whole : List Request}
    (hmerge : Interleaves (ds.map fun d => (d.course reply).2) whole)
    (hafter : after.workspace = w.workspace.gain whole) :
    w.GainsMerge (ds.map fun d => (w.play c d).2) after := by
  have hgains {β : Type} (field : Workspace → List β) {f : Request → List β}
      (hfield : ∀ (v : Workspace) qs, field (v.gain qs) = field v ++ qs.flatMap f) :
      GainsInterleaving (field w.workspace) (field after.workspace)
        ((ds.map fun d => (w.play c d).2).map fun v => field v.workspace) := by
    refine ⟨_, whole.flatMap f, ?_, ?_, hmerge.flatMap f⟩
    · simp only [List.map_map]
      refine List.map_congr_left fun d hd => ?_
      exact (congrArg field (play_course h (hds d hd) w).2).trans (hfield _ _)
    · rw [hafter, hfield]
  exact
    { notes := hgains Workspace.notes fun _ _ => rfl
      files := hgains Workspace.files fun _ _ => rfl
      messages := hgains Workspace.messages fun _ _ => rfl
      actionLog := hgains Workspace.actionLog fun _ _ => rfl
      playedTracks := hgains Workspace.playedTracks fun _ _ => rfl
      plan := by rw [hafter]; rfl }

/-- Dialogues that only add all end, if each of them gets enough turns. -/
theorem interleave_ends {c : Collaborators} {reply : (q : Request) → q.Reply}
    (h : AnswersAs c reply) (pauses : Request → Bool) {ds : List (Dialogue α)}
    (hds : ∀ d ∈ ds, d.OnlyAdds) (w : World) :
    ∃ turns, ∀ schedule : List Nat, (∀ i < ds.length, turns ≤ schedule.count i) →
      ∀ d ∈ (w.interleave c pauses schedule ds).1, d.result?.isSome := by
  refine ⟨(ds.map fun d => (d.course reply).2.length).sum, fun schedule hturns e he => ?_⟩
  obtain ⟨i, he⟩ := List.mem_iff_getElem?.1 he
  obtain ⟨d, hd, hshort⟩ := interleave_shortens h pauses schedule ds hds w he
  refine Dialogue.ended_of_course (hshort.elim id fun hshort => ?_)
  have hcount := hturns i (List.getElem?_eq_some_iff.1 hd).1
  have hsum : (d.course reply).2.length ≤ (ds.map fun d => (d.course reply).2.length).sum :=
    List.le_sum_of_mem (List.mem_map_of_mem (List.mem_of_getElem? hd))
  exact List.eq_nil_of_length_eq_zero (by omega)

/-- Scripts, each with a value for its prompt, take turns in a world as a schedule says. -/
def runTogether (c : Collaborators) (pauses : Request → Bool) (w : World) (schedule : List Nat)
    (scripts : List (String × Value)) : List (Dialogue (Except Failure Unit × Run)) × World :=
  w.interleave c pauses schedule (scripts.map fun s => runScript s.1 s.2)

/-- Isolation: scripts that only add to the workspace do not disturb each other, wherever they
    pause. They all end if each of them gets enough turns. And whatever the schedule under which
    they have ended, each has ended as it does alone, and the lists of the workspace have gained a
    merge of what each script adds alone. -/
theorem runTogether_isolated {c : Collaborators} (hc : c.IsSteady) (pauses : Request → Bool)
    (w : World) (scripts : List (String × Value)) (hscripts : ∀ s ∈ scripts, Script.OnlyAdds s.1) :
    (∃ turns, ∀ schedule : List Nat, (∀ i < scripts.length, turns ≤ schedule.count i) →
        ∀ d ∈ (w.runTogether c pauses schedule scripts).1, d.result?.isSome)
      ∧ ∀ schedule : List Nat,
        (∀ d ∈ (w.runTogether c pauses schedule scripts).1, d.result?.isSome) →
        (w.runTogether c pauses schedule scripts).1
            = scripts.map (fun s => .done (w.play c (runScript s.1 s.2)).1)
          ∧ w.GainsMerge (scripts.map fun s => (w.play c (runScript s.1 s.2)).2)
            (w.runTogether c pauses schedule scripts).2 := by
  have h : AnswersAs c fun q => (w.answer c q).1 := fun w' q hq => answer_reply_eq hc hq w' w
  have hds : ∀ d ∈ scripts.map (fun s => runScript s.1 s.2), d.OnlyAdds := by
    intro d hd
    obtain ⟨s, hs, rfl⟩ := List.mem_map.1 hd
    exact runScript_onlyAdds (hscripts s hs) s.2
  refine ⟨?_, fun schedule hended => ?_⟩
  · have hends := interleave_ends h pauses hds w
    rwa [List.length_map] at hends
  · obtain ⟨hresults, whole, hmerge, hworkspace⟩ :=
      interleave_course h pauses schedule _ hds w hended
    have hgains := gainsMerge_of_course h hds hmerge hworkspace
    rw [List.map_map] at hgains
    refine ⟨hresults.trans ?_, hgains⟩
    rw [List.map_map]
    exact List.map_congr_left fun s hs => congrArg Dialogue.done
      (play_course h (runScript_onlyAdds (hscripts s hs) s.2) w).1.symm

/-- A script that asks for text twice, and one that writes a note. -/
def noteTakers : List (String × Value) :=
  [("start beforePrompt\nrunAI(\"a\")\nend beforePrompt start Prompt hello end Prompt", .str "x"),
    ("start beforePrompt\ncreateNote(title=\"b\")\nend beforePrompt", .str "y")]

theorem runTogether_isolated_noteTakers :
    (Collaborators.replying fun prompt _ => .ok prompt).IsSteady
      ∧ (∀ s ∈ noteTakers, Script.OnlyAdds s.1)
      ∧ (∀ d ∈ ((initial {} 0).runTogether (.replying fun prompt _ => .ok prompt)
        Request.isGeneration [0, 1, 0, 1, 0] noteTakers).1, d.result?.isSome)
      ∧ (initial {} 0).GainsMerge
        (noteTakers.map fun s => ((initial {} 0).play (.replying fun prompt _ => .ok prompt)
          (runScript s.1 s.2)).2)
        ((initial {} 0).runTogether (.replying fun prompt _ => .ok prompt)
          Request.isGeneration [0, 1, 0, 1, 0] noteTakers).2 := by
  have hsteady : (Collaborators.replying fun prompt _ => .ok prompt).IsSteady :=
    fun _ _ _ _ => rfl
  have hadds : ∀ s ∈ noteTakers, Script.OnlyAdds s.1 := by decide +kernel
  have hended : ∀ d ∈ ((initial {} 0).runTogether (.replying fun prompt _ => .ok prompt)
      Request.isGeneration [0, 1, 0, 1, 0] noteTakers).1, d.result?.isSome := by decide +kernel
  exact ⟨hsteady, hadds, hended,
    ((runTogether_isolated hsteady _ _ noteTakers hadds).2 _ hended).2⟩

end World

end AgentScript
