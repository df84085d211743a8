import AgentScript.Proofs.Run.Outcome

set_option autoImplicit false

/-! # Answers that are posted

A script that ends without an error has posted its answer if the answer has a text, with one
exception: an answer that is hollow, such as zero or an empty list, has a text but is not posted
(`play_runScript_answered`). -/

namespace AgentScript

/-- Whether the answer is hollow: it has a text, but counts as nothing. -/
def Context.isHollow (c : Context) : Bool :=
  (c.get? "answer").any Value.isHollow

/-- What a run has posted that notes no error: its answer, unless that has no text or is hollow. -/
inductive Run.HasPosted (run : Run) : Option ChatMessage → Prop where
  | answer {text : String} (markup : String) (hanswer : run.context.answer = .ok text)
      (htext : text ≠ "") (hhollow : run.context.isHollow = false) :
      HasPosted run (some (.ofAnswer text markup))
  | silent {text : String} (hanswer : run.context.answer = .ok text)
      (htext : text ≠ "" ↔ run.context.isHollow) : HasPosted run none

/-- How a script may end: what it has posted matters if it returns and notes no error. -/
def HasPostedAnswer (r : Except Failure Unit × Run) (posted : Option ChatMessage) : Prop :=
  r.1 = .ok () → r.2.error = none → r.2.HasPosted posted

theorem Context.isHollow_of_isTruthy {c : Context}
    (h : (c.get? "answer").any Value.isTruthy) : c.isHollow = false := by
  rw [isHollow]
  cases hv : c.get? "answer" with
  | none => rfl
  | some v =>
      have htruthy : v.isTruthy := by simpa [hv] using h
      cases v <;> simp_all [Value.isHollow]

theorem conclude_hasPostedAnswer {fails : Failure → Prop} (f : Failure) (run : Run) :
    (Run.conclude (.error f, run)).PostsLast fails HasPostedAnswer := by
  rw [Run.conclude]
  split
  · exact fun _ _ => ⟨_, rfl, fun _ herror => (nomatch herror)⟩
  · exact fun hok => (nomatch hok)

/-- Whatever the collaborators do, a script that returns without an error has posted what it is to
    post. -/
theorem runScript_hasPostedAnswer (source : String) (prompt : Value) :
    (runScript source prompt).PostsLast (fun _ => True) HasPostedAnswer := by
  refine runScript_postsLast (fun _ _ => trivial) (fun f run _ => conclude_hasPostedAnswer f run)
    (fun run _ => ?_) source prompt
  refine RunM.postAnswer_postsLast (fun _ _ => trivial)
    (fun f run _ => conclude_hasPostedAnswer f run) ?_ ?_
  · intro text markup htruthy hanswer _ _
    exact .answer markup hanswer (Context.answer_ne_empty htruthy hanswer)
      (Context.isHollow_of_isTruthy htruthy)
  · intro hnot _ _
    obtain ⟨text, hanswer, htext⟩ := Context.answer_of_not_isTruthy hnot
    exact .silent hanswer htext

/-- A script that returns and notes no error has posted its answer, in exactly one message, if the
    answer has a text and is not hollow. If the answer has no text or is hollow, there is no
    message; only in the second case is there a text that might have been posted. -/
theorem World.play_runScript_answered (c : Collaborators) (w : World) (source : String)
    (prompt : Value) {run : Run} (hok : (w.play c (runScript source prompt)).1 = (.ok (), run))
    (herror : run.error = none) :
    ∃ text, run.context.answer = .ok text
      ∧ (text ≠ "" → run.context.isHollow = false → ∃ markup,
        (w.play c (runScript source prompt)).2.workspace.messages
          = w.workspace.messages ++ [.ofAnswer text markup])
      ∧ (text = "" ∨ run.context.isHollow →
        (w.play c (runScript source prompt)).2.workspace.messages = w.workspace.messages)
      ∧ (run.context.isHollow → text ≠ "") := by
  obtain ⟨posted, ⟨calls, -, -, hmessages⟩, hends⟩ :=
    w.play_postsLast (c.failsIn_all) (runScript_hasPostedAnswer source prompt)
  rw [hok] at hends
  rw [hmessages]
  cases hends rfl herror with
  | @answer text markup hanswer htext hhollow =>
      refine ⟨text, hanswer, fun _ _ => ⟨markup, rfl⟩, fun h => ?_, fun _ => htext⟩
      rcases h with hempty | h
      · exact absurd hempty htext
      · exact absurd h (by simp [hhollow])
  | @silent text hanswer htext =>
      refine ⟨text, hanswer, fun hne hhollow => ?_, fun _ => List.append_nil _, htext.2⟩
      exact absurd (htext.1 hne) (by simp [hhollow])

theorem World.play_runScript_answered_replied :
    ∃ run, ((initial {} 0).play (.replying fun prompt _ => .ok prompt)
          (runScript "start Prompt hi end Prompt" (.str ""))).1 = (.ok (), run)
      ∧ run.error = none
      ∧ ∃ text, run.context.answer = .ok text
        ∧ (text ≠ "" → run.context.isHollow = false → ∃ markup,
          ((initial {} 0).play (.replying fun prompt _ => .ok prompt)
            (runScript "start Prompt hi end Prompt" (.str ""))).2.workspace.messages
            = [] ++ [.ofAnswer text markup])
        ∧ (text = "" ∨ run.context.isHollow →
          ((initial {} 0).play (.replying fun prompt _ => .ok prompt)
            (runScript "start Prompt hi end Prompt" (.str ""))).2.workspace.messages = [])
        ∧ (run.context.isHollow → text ≠ "") := by
  have hok : ((initial {} 0).play (.replying fun prompt _ => .ok prompt)
      (runScript "start Prompt hi end Prompt" (.str ""))).1.1 = .ok () := by
    with_unfolding_all rfl
  have herror : ((initial {} 0).play (.replying fun prompt _ => .ok prompt)
      (runScript "start Prompt hi end Prompt" (.str ""))).1.2.error = none := by
    decide +kernel
  exact ⟨_, Prod.ext hok rfl, herror, play_runScript_answered _ _ _ _ (Prod.ext hok rfl) herror⟩

/-- Collaborators with a sandbox in which all code ends with zero. -/
def Collaborators.countingNothing : Collaborators :=
  { Collaborators.replying fun prompt _ => .ok prompt with
    sandbox := some { boot := fun _ => {}, run := fun _ _ => .finish (.ok (.int 0)) } }

/-- A script whose answer is what code has returned. -/
def returnedAnswer : String :=
  "start afterPrompt\nexecute(return 0)\ngetOutput as \"answer\"\nend afterPrompt"

/-- The answer zero has a text, but is not posted. -/
theorem World.play_returnedAnswer_silent :
    ((initial {} 0).play .countingNothing (runScript returnedAnswer (.str ""))).1.1.toOption
        = some ()
      ∧ ((initial {} 0).play .countingNothing (runScript returnedAnswer (.str ""))).1.2.error = none
      ∧ ((initial {} 0).play .countingNothing
        (runScript returnedAnswer (.str ""))).1.2.context.answer.toOption = some "0"
      ∧ ((initial {} 0).play .countingNothing
        (runScript returnedAnswer (.str ""))).2.workspace.messages = [] := by
  decide +kernel

end AgentScript
