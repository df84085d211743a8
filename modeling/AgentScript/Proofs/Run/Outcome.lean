import AgentScript.Proofs.Context.Answer
import AgentScript.Proofs.Run.Requests
import AgentScript.Proofs.Run.World

set_option autoImplicit false

/-! # The outcome of a script

A script posts at most one message, and that is the last thing it does: the answer if all goes well
and there is one, a card with the reason if anything fails (`runScript_outcome`). Up to the posting,
no part of a script posts anything or notes an error, whatever its collaborators do; how it ends is
then read off the posting alone. -/

namespace AgentScript

variable {α β : Type} {fails : Failure → Prop}

/-! ## Posting last -/

/-- A dialogue that puts no request after it has posted a message, and of which `ends` holds for
    the way it ends and the message it has posted, if it has. -/
def Dialogue.PostsLast (fails : Failure → Prop) (ends : α → Option ChatMessage → Prop) :
    Dialogue α → Prop
  | .done a => ends a none
  | .ask (.addMessage message) next => ∃ a, next () = .done a ∧ ends a (some message)
  | .ask q next => ∀ r, q.FailsIn fails r → (next r).PostsLast fails ends

/-- What comes before the posting posts nothing itself. -/
theorem Dialogue.Keeps.postsLast {ends : β → Option ChatMessage → Prop} {d : Dialogue α}
    {f : α → Dialogue β}
    (h : d.Keeps fails (fun q => q.posted = []) fun a => (f a).PostsLast fails ends) :
    (d >>= f).PostsLast fails ends := by
  induction d with
  | done a => exact h
  | ask q next ih =>
      obtain ⟨hq, hnext⟩ := h
      cases q with
      | addMessage message => cases hq
      | _ => exact fun r hr => ih r (hnext r hr)

theorem Dialogue.PostsLast.next {ends : α → Option ChatMessage → Prop} {q : Request}
    {next : q.Reply → Dialogue α} (h : (Dialogue.ask q next).PostsLast fails ends)
    (hq : q.posted = []) {r : q.Reply} (hr : q.FailsIn fails r) :
    (next r).PostsLast fails ends := by
  cases q with
  | addMessage message => cases hq
  | _ => exact h r hr

/-- A later state of a world: in between there were exchanges that posted nothing, and at the very
    end a message may have been posted. -/
def World.Posts (w after : World) (posted : Option ChatMessage) : Prop :=
  ∃ calls, after.journal = w.journal ++ calls ++ (posted.map Exchange.ofPost).toList
    ∧ (∀ e ∈ calls, e.request.posted = [])
    ∧ after.workspace.messages = w.workspace.messages ++ posted.toList

theorem World.Posts.answer (c : Collaborators) {w after : World} {posted : Option ChatMessage}
    {q : Request} (hq : q.posted = []) (h : (w.answer c q).2.Posts after posted) :
    w.Posts after posted := by
  obtain ⟨calls, hjournal, hcalls, hmessages⟩ := h
  rw [answer_journal, List.append_assoc w.journal] at hjournal
  rw [answer_messages, hq, List.append_nil] at hmessages
  refine ⟨_, hjournal, fun e he => ?_, hmessages⟩
  rcases List.mem_append.1 he with he | he
  · split at he
    · rw [List.mem_singleton.1 he]
      exact hq
    · cases he
  · exact hcalls e he

/-- Played in a world, such a dialogue adds its message to those of the workspace and to the end of
    the journal. -/
theorem World.play_postsLast {c : Collaborators} (hc : c.FailsIn fails)
    {ends : α → Option ChatMessage → Prop} {d : Dialogue α} (h : d.PostsLast fails ends)
    (w : World) :
    ∃ posted, w.Posts (w.play c d).2 posted ∧ ends (w.play c d).1 posted := by
  induction d generalizing w with
  | done a => exact ⟨none, ⟨[], by simp [play_done], by simp, by simp [play_done]⟩, h⟩
  | ask q next ih =>
      by_cases hq : q.posted = []
      · obtain ⟨posted, hposts, hends⟩ := ih _ (h.next hq (answer_failsIn c w hc q)) _
        exact ⟨posted, hposts.answer c hq, hends⟩
      · cases q with
        | addMessage message =>
            -- nothing is left of the dialogue but its end
            obtain ⟨a, hnext, hends⟩ := h
            have hplay : w.play c (.ask (.addMessage message) next) =
                (a, (w.answer c (.addMessage message)).2) :=
              congrArg (World.play c _) hnext
            rw [hplay]
            exact ⟨some message, ⟨[], by simp [answer, respond, isJournaled, Exchange.ofPost,
              setWorkspace], by simp, answer_messages c w _⟩, hends⟩
        | _ => exact absurd rfl hq

/-! ## Before the posting -/

/-- What a script may do before it posts anything: all but post, and nothing to the error. -/
def beforePosting : Footprint :=
  ⟨fun q => q.posted = [], fun run after => after.error = run.error⟩

theorem covers_beforePosting (own : ∀ f, IsOrdinary f → fails f) : beforePosting.Covers fails where
  own := own
  trace _ := rfl
  refl _ := rfl
  trans h h' := h'.trans h

theorem Command.within_beforePosting (c : Command) : c.footprint.Within beforePosting where
  asks q hq := by
    cases q with
    | addMessage message => cases c <;> simp [Command.footprint, Command.mayAsk] at hq
    | _ => rfl
  moves run after h := by
    cases c with
    | execute code => obtain ⟨_, _, rfl⟩ := h; rfl
    | createAI | getNote | runAI | runAgent | saveFile | deleteFile | getFile =>
        obtain ⟨_, rfl⟩ := h; rfl
    | _ => exact congrArg Run.error h

theorem Script.Action.within_beforePosting (action : Script.Action) :
    action.footprint.Within beforePosting := by
  cases action with
  | callAgent agent arguments => exact Command.within_beforePosting _
  | callCommand name arguments =>
      refine ⟨fun q hq => ?_, fun run after h => ?_⟩
      · obtain ⟨c, -, hq⟩ := hq
        exact c.within_beforePosting.asks q hq
      · obtain ⟨c, -, h⟩ := h
        exact c.within_beforePosting.moves run after h
  | override | keep =>
      refine ⟨fun q hq => hq.elim, fun run after h => ?_⟩
      obtain ⟨context, rfl⟩ := h
      rfl
  | register agent =>
      refine ⟨fun q hq => ?_, fun run after h => ?_⟩
      · obtain ⟨message, rfl⟩ := hq
        rfl
      · obtain ⟨agents, rfl⟩ := h
        rfl
  | nothing => exact ⟨fun q hq => hq.elim, fun run after h => congrArg Run.error h⟩

/-! ## The posting -/

/-- How a run may end, and with which message: without one, with the answer, or with the card of a
    failure. -/
inductive Outcome : Except Failure Unit × Run → Option ChatMessage → Prop where
  | silent {run : Run} (hrun : run.error = none) : Outcome (.ok (), run) none
  | answered {run : Run} {text : String} (markup : String) (hrun : run.error = none)
      (hanswer : run.context.answer = .ok text) (htext : text ≠ "") :
      Outcome (.ok (), run) (some (.ofAnswer text markup))
  | failed {run : Run} {f : Failure} (hrun : run.error = some f.notice) :
      Outcome (.ok (), run) (some (.ofFailure f))

theorem Failure.notice_ne_empty (f : Failure) : f.notice ≠ "" := by
  unfold Failure.notice
  split
  · decide
  · assumption

namespace RunM

/-- A failure is posted as a card. -/
theorem conclude_error {f : Failure} (hf : IsOrdinary f) (run : Run) :
    (Run.conclude (.error f, run)).PostsLast IsOrdinary Outcome := by
  have hconclude : Run.conclude (.error f, run) = (do return (.ok (), ← run.report f)) :=
    if_pos hf
  rw [hconclude]
  exact fun _ _ => ⟨_, rfl, .failed rfl⟩

/-- An action that keeps from posting is followed by what posts last. -/
theorem bind_postsLast {ends : Except Failure Unit × Run → Option ChatMessage → Prop}
    (hstops : ∀ f run, fails f → (Run.conclude (.error f, run)).PostsLast fails ends)
    {x : RunM α} {f : α → RunM Unit} (hx : x.Keeps fails beforePosting fun _ => True)
    (hf : ∀ a run, run.error = none → ((f a).from run >>= Run.conclude).PostsLast fails ends)
    {run : Run} (hrun : run.error = none) :
    ((x >>= f).from run >>= Run.conclude).PostsLast fails ends := by
  rw [from_bind, bind_assoc]
  refine ((hx run).mono fun r hr => ?_).postsLast
  obtain ⟨e | a, after⟩ := r
  · -- a failure ends the phases here and is posted at once
    exact hstops e after hr.failure
  · exact hf a after (hr.moves.trans hrun)

/-- The answer is posted if it counts as something, and otherwise nothing is. -/
theorem postAnswer_postsLast (own : ∀ f, IsOrdinary f → fails f)
    {ends : Except Failure Unit × Run → Option ChatMessage → Prop}
    (hstops : ∀ f run, fails f → (Run.conclude (.error f, run)).PostsLast fails ends) {run : Run}
    (hanswered : ∀ text markup, (run.context.get? "answer").any Value.isTruthy →
      run.context.answer = .ok text → ends (.ok (), run) (some (.ofAnswer text markup)))
    (hsilent : ¬ (run.context.get? "answer").any Value.isTruthy → ends (.ok (), run) none) :
    (postAnswer.from run >>= Run.conclude).PostsLast fails ends := by
  have hget : postAnswer.from run =
      (if (run.context.get? "answer").any Value.isTruthy then do
          let text ← lift run.context.answer
          let markup ← lift (← request (.render text))
          request (.addMessage (.ofAnswer text markup))
        else pure () : RunM Unit).from run :=
    rfl
  rw [hget]
  split
  · next htruthy =>
      rw [from_bind, from_lift]
      have hfails := run.context.answer_failsIn
      cases htext : run.context.answer with
      | error f =>
          rw [htext] at hfails
          exact hstops f run (own f hfails)
      | ok text =>
          refine fun rendered hrendered => ?_
          cases rendered with
          | error f => exact hstops f run hrendered
          | ok markup => exact ⟨_, rfl, hanswered text markup htruthy htext⟩
  · next hnot => exact hsilent hnot

end RunM

/-- How a script ends is read off its posting: that of a failure, or that of the answer. -/
theorem runScript_postsLast (own : ∀ f, IsOrdinary f → fails f)
    {ends : Except Failure Unit × Run → Option ChatMessage → Prop}
    (hstops : ∀ f run, fails f → (Run.conclude (.error f, run)).PostsLast fails ends)
    (hanswer : ∀ run, run.error = none →
      (RunM.postAnswer.from run >>= Run.conclude).PostsLast fails ends)
    (source : String) (prompt : Value) : (runScript source prompt).PostsLast fails ends := by
  have covers := covers_beforePosting own
  have hblock (announcement : String) (block : Option String) :
      (RunM.runBlock? announcement block).Keeps fails beforePosting fun _ => True :=
    RunM.runBlock?_keeps covers announcement block fun _ _ s _ => s.action.within_beforePosting
  rw [runScript_eq_conclude]
  refine RunM.bind_postsLast hstops (RunM.trace_keeps covers _ _) (fun _ run hrun => ?_) rfl
  refine RunM.bind_postsLast hstops (hblock _ _) (fun _ run hrun => ?_) hrun
  refine RunM.bind_postsLast hstops (RunM.produceAnswer_keeps covers (fun _ => rfl) (fun _ => rfl)
    (fun _ _ => rfl) _) (fun _ run hrun => ?_) hrun
  exact RunM.bind_postsLast hstops (hblock _ _) (fun _ run hrun => hanswer run hrun) hrun

/-- One outcome per run: with collaborators that fail for ordinary reasons, a script returns, posts
    at most one message and calls no collaborator after that. It notes an error just when the
    message is a system message, which then is the card of that error; without an error, the message
    gives the answer, and the answer is not empty. -/
theorem World.play_runScript_outcome {c : Collaborators} (hc : c.FailsIn IsOrdinary) (w : World)
    (source : String) (prompt : Value) :
    ∃ (run : Run) (posted : Option ChatMessage),
      (w.play c (runScript source prompt)).1 = (.ok (), run)
        ∧ w.Posts (w.play c (runScript source prompt)).2 posted
        ∧ (run.error ≠ none ↔ ∃ m, posted = some m ∧ m.type = "system")
        ∧ (∀ error, run.error = some error → error ≠ "" ∧ posted = some
          { role := "model", type := "system", text := ChatMessage.failureText,
            displayHtml := ChatMessage.errorCard error })
        ∧ (run.error = none → ∀ m, posted = some m →
          m.type = "text" ∧ run.context.answer = .ok m.text ∧ m.text ≠ "") := by
  have hstops := fun f run (hf : IsOrdinary f) => RunM.conclude_error hf run
  have hscript : (runScript source prompt).PostsLast IsOrdinary Outcome :=
    runScript_postsLast (fun _ hf => hf) hstops (fun run hrun =>
      RunM.postAnswer_postsLast (fun _ hf => hf) hstops
        (fun _ markup htruthy htext =>
          .answered markup hrun htext (Context.answer_ne_empty htruthy htext))
        fun _ => .silent hrun) source prompt
  obtain ⟨posted, hposts, hends⟩ := w.play_postsLast hc hscript
  generalize (w.play c (runScript source prompt)).1 = result at hends ⊢
  cases hends with
  | silent hrun => exact ⟨_, _, rfl, hposts, by simp [hrun], by simp [hrun], by simp⟩
  | @answered run text markup hrun hanswer htext =>
      refine ⟨_, _, rfl, hposts, ?_, by simp [hrun], ?_⟩
      · refine ⟨fun h => absurd hrun h, ?_⟩
        rintro ⟨m, hm, htype⟩
        cases hm
        have hkinds : "text" = "system" := htype
        exact absurd hkinds (by decide)
      · rintro - m hm
        cases hm
        exact ⟨rfl, hanswer, htext⟩
  | @failed run f hrun =>
      refine ⟨_, _, rfl, hposts, ?_, ?_, by simp [hrun]⟩
      · exact ⟨fun _ => ⟨_, rfl, rfl⟩, fun _ h => by simp [hrun] at h⟩
      · intro error herror
        obtain rfl : f.notice = error := Option.some.inj (hrun.symm.trans herror)
        exact ⟨f.notice_ne_empty, rfl⟩

/-- Collaborators that reply to everything, but cannot render the reply. -/
def Collaborators.unrendered : Collaborators :=
  { Collaborators.replying fun prompt _ => .ok prompt with
    render := fun _ => .error (.raised "ValueError" (some "no <b>")) }

theorem World.play_runScript_unrendered :
    Collaborators.unrendered.FailsIn IsOrdinary ∧
      ∃ (run : Run) (posted : Option ChatMessage),
        ((initial {} 0).play .unrendered (runScript "start Prompt hi end Prompt" (.str ""))).1
            = (.ok (), run)
          ∧ (initial {} 0).Posts ((initial {} 0).play .unrendered
            (runScript "start Prompt hi end Prompt" (.str ""))).2 posted
          ∧ (run.error ≠ none ↔ ∃ m, posted = some m ∧ m.type = "system")
          ∧ (∀ error, run.error = some error → error ≠ "" ∧ posted = some
            { role := "model", type := "system", text := ChatMessage.failureText,
              displayHtml := ChatMessage.errorCard error })
          ∧ (run.error = none → ∀ m, posted = some m →
            m.type = "text" ∧ run.context.answer = .ok m.text ∧ m.text ≠ "") :=
  have hc : Collaborators.unrendered.FailsIn IsOrdinary :=
    { generator := fun _ _ _ => trivial
      render := fun _ => rfl
      boot := fun _ hs => nomatch hs
      run := fun _ hs => nomatch hs }
  ⟨hc, play_runScript_outcome hc _ _ _⟩

end AgentScript
