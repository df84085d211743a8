import AgentScript.Proofs.Run.Look
import AgentScript.Proofs.Run.Retrace
import AgentScript.Proofs.Script.LogCalls

set_option autoImplicit false

/-! # Running blocks of log calls

A block of `log` calls with quoted messages logs these messages, resolved and in order, and does
nothing else, just when no call but the last one leaves a parenthesis open
(`play_runBlock_logBlock`). Otherwise a call takes in the one after it, and there are fewer lines
in the log than calls in the block. -/

namespace AgentScript

open Script

variable {α : Type}

/-! ## Dialogues that only log -/

/-- The dialogue that logs some lines and then ends. -/
def Dialogue.logging (a : α) : List String → Dialogue α
  | [] => .done a
  | line :: rest => .ask (.logAction line) fun _ => logging a rest

namespace World

/-- A world after some lines have been logged, the trace aside. -/
def afterLogging (w : World) (lines : List String) : World :=
  { w with
    workspace := { w.workspace with actionLog := w.workspace.actionLog ++ lines }
    journal := w.journal ++ lines.map fun line => ⟨.logAction line, ()⟩ }

theorem afterLogging_cons (c : Collaborators) (w : World) (line : String) (rest : List String) :
    (w.afterLogging (line :: rest)).SameButTrace
      ((w.answer c (.logAction line)).2.afterLogging rest) :=
  ⟨w.trace.write ⟨.actions, 1, line⟩, by
    simp [afterLogging, answer, respond, isJournaled, Workspace.logAction]⟩

theorem play_logging (c : Collaborators) (w : World) (a : α) (lines : List String) :
    (w.play c (.logging a lines)).1 = a
      ∧ (w.afterLogging lines).SameButTrace (w.play c (.logging a lines)).2 := by
  induction lines generalizing w with
  | nil => exact ⟨rfl, w.trace, by simp [afterLogging, Dialogue.logging, play_done]⟩
  | cons line rest ih =>
      rw [Dialogue.logging, play_ask]
      obtain ⟨hend, hworld⟩ := ih (w.answer c (.logAction line)).2
      exact ⟨hend, (w.afterLogging_cons c line rest).trans hworld⟩

end World

/-! ## Steps that only log -/

namespace RunM

theorem call_log_untraced {arguments message text : String} {run : Run}
    (hcall : Command.ofCall "log" arguments = .ok (.log message))
    (htext : run.context.resolve message = .ok text) :
    ((call "log" arguments).from run).untraced = .logging (.ok (), run) [text] := by
  have hdispatch : call "log" arguments = dispatch (.log message) := by
    rw [call, hcall]
    rfl
  rw [hdispatch, dispatch, untraced_trace_bind, from_resolve_bind_ok htext]
  rfl

/-- The steps of calls that take in no others log the messages, one after the other. -/
theorem runSteps_logCalls_untraced {messages : List String}
    (hplain : ∀ m ∈ messages, IsQuotable m) (hclosed : ∀ m ∈ messages.dropLast, ClosesAll m)
    {run : Run} {resolved : String → String}
    (hresolved : ∀ m ∈ messages, run.context.resolve m = .ok (resolved m)) (n : Nat) :
    ((runSteps (stepsFrom n (messages.map logCall))).from run).untraced
      = .logging (.ok (), run) (messages.map resolved) := by
  induction messages generalizing n with
  | nil => simp [stepsFrom, runSteps, Dialogue.logging]; rfl
  | cons message rest ih =>
      obtain ⟨hmessage, hrest⟩ := List.forall_mem_cons.1 hplain
      obtain ⟨htext, htexts⟩ := List.forall_mem_cons.1 hresolved
      obtain ⟨htaken, hclosed⟩ := forall_mem_dropLast_cons.1 hclosed
      obtain ⟨s, haction, hsteps⟩ := stepsFrom_logCall n message rest
      rw [captureCall_logCall_content htaken] at haction
      rw [htaken, List.drop_zero] at hsteps
      have hstep : ((step s).from run).untraced = .logging (.ok (), run) [resolved message] := by
        rw [step, untraced_trace_bind, haction, act]
        exact call_log_untraced (ofCall_log hmessage) htext
      rw [hsteps, runSteps, from_bind, Dialogue.untraced_bind, hstep]
      exact congrArg (Dialogue.ask _) (funext fun _ => ih hrest hclosed htexts _)

theorem call_log_looks (arguments : String) : (call "log" arguments).Looks 1 := by
  have hdispatch : (dispatch (.log (stripQuotes arguments))).Looks 1 :=
    .first (.request rfl) fun _ => .first (.resolve _) fun _ => .logAction _
  exact hdispatch

theorem runSteps_looks {steps : List Step} (h : ∀ s ∈ steps, (act s.action).Looks 1) :
    (runSteps steps).Looks steps.length := by
  induction steps with
  | nil => exact .of_keeps (.pure covers_looking trivial)
  | cons s rest ih =>
      obtain ⟨hs, hrest⟩ := List.forall_mem_cons.1 h
      have hstep : (step s).Looks 1 := .first (.request rfl) fun _ => hs
      rw [List.length_cons, Nat.add_comm]
      exact hstep.bind fun _ => ih hrest

end RunM

/-- Running a block of `log` calls, whose messages stand in quotes and can be resolved, logs the
    resolved messages in order and does nothing else, if and only if every message but the last has
    at least as many closing parentheses as opening ones. -/
theorem World.play_runBlock_logBlock (c : Collaborators) (w : World) {messages : List String}
    (hplain : ∀ m ∈ messages, IsQuotable m) {run : Run} {resolved : String → String}
    (hresolved : ∀ m ∈ messages, run.context.resolve m = .ok (resolved m)) :
    (w.play c ((RunM.runBlock (logBlock messages)).from run)).1 = (.ok (), run)
        ∧ (w.afterLogging (messages.map resolved)).SameButTrace
          (w.play c ((RunM.runBlock (logBlock messages)).from run)).2
      ↔ ∀ m ∈ messages.dropLast, ClosesAll m := by
  rw [RunM.runBlock, steps_logBlock hplain]
  constructor
  · -- each step logs one line at most, so there are as many steps as messages
    rintro ⟨-, trace, hworld⟩
    have hlooks : (RunM.runSteps (stepsFrom 0 (messages.map logCall))).Looks _ :=
      RunM.runSteps_looks fun s hs => by
        obtain ⟨arguments, haction⟩ := action_of_mem_stepsFrom 0 messages s hs
        rw [haction]
        exact RunM.call_log_looks arguments
    obtain ⟨-, ⟨added, hadded, hworkspace⟩, -⟩ := hlooks c w run
    rw [hworld] at hworkspace
    have hlines : messages.map resolved = added :=
      List.append_cancel_left (congrArg Workspace.actionLog hworkspace)
    rw [← hlines, List.length_map] at hadded
    obtain ⟨hle, hiff⟩ := length_stepsFrom_logCalls 0 messages
    exact hiff.1 (Nat.le_antisymm hle hadded)
  · intro hclosed
    obtain ⟨hend, hworld⟩ := w.play_untraced c
      ((RunM.runSteps (stepsFrom 0 (messages.map logCall))).from run) ⟨w.trace, rfl⟩
    rw [RunM.runSteps_logCalls_untraced hplain hclosed hresolved] at hend hworld
    obtain ⟨hlast, hlogged⟩ := w.play_logging c ((.ok (), run) : Except Failure Unit × Run)
      (messages.map resolved)
    exact ⟨hend.trans hlast, hlogged.trans hworld⟩

/-- Parentheses may be closed in front of the place where they are opened, and the last message may
    leave one open. -/
theorem World.play_runBlock_logBlock_smileys :
    ((initial {} 0).play (.replying fun prompt _ => .ok prompt)
        ((RunM.runBlock (logBlock [":) # (log", "[prompt] :("])).from (.start (.str "hi")))).1
        = (.ok (), .start (.str "hi"))
      ∧ ((initial {} 0).afterLogging [":) # (log", "hi :("]).SameButTrace
        ((initial {} 0).play (.replying fun prompt _ => .ok prompt)
          ((RunM.runBlock (logBlock [":) # (log", "[prompt] :("])).from
            (.start (.str "hi")))).2 := by
  have hplain : ∀ m ∈ [":) # (log", "[prompt] :("], IsQuotable m := by decide +kernel
  have hclosed : ∀ m ∈ [":) # (log", "[prompt] :("].dropLast, ClosesAll m := by decide +kernel
  have hresolved : ∀ m ∈ [":) # (log", "[prompt] :("], (Run.start (.str "hi")).context.resolve m
      = .ok (if m = "[prompt] :(" then "hi :(" else m) := by
    refine List.forall_mem_cons.2 ⟨?_, List.forall_mem_singleton.2 ?_⟩ <;>
      with_unfolding_all rfl
  exact (play_runBlock_logBlock _ _ hplain hresolved).2 hclosed

/-- A parenthesis that is left open between quotes takes in the next call: two calls, whose messages
    stand for themselves, log one line. -/
theorem World.play_runBlock_logBlock_open :
    (∀ m ∈ ["(", "x"], IsQuotable m)
      ∧ (∀ m ∈ ["(", "x"], ((Run.start (.str "")).context.resolve m).toOption = some m)
      ∧ ((initial {} 0).play (.replying fun prompt _ => .ok prompt)
        ((RunM.runBlock (logBlock ["(", "x"])).from (.start (.str "")))).2.workspace.actionLog
        = ["(\")\nlog(\"x"]
      ∧ ["(\")\nlog(\"x"] ≠ ["(", "x"] := by
  decide +kernel

end AgentScript
