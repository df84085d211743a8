import AgentScript.Command.Reader
import AgentScript.Proofs.Script.Composition
import AgentScript.Proofs.Script.Quotes
import AgentScript.Proofs.Text.Blank

set_option autoImplicit false

/-! # Blocks of quoted log calls

Where a call ends is found by counting parentheses, those between quotes included. So a block of
`log` calls makes a step for each of its lines just when no call but the last one opens more
parentheses between its quotes than it closes there (`length_steps_logBlock`). -/

namespace AgentScript.Script

open Text

/-! ## A call on a line -/

/-- The call that logs a message, with quotes around the message. -/
def logCall (message : String) : String :=
  "log(\"" ++ message ++ "\")"

/-- The block of the calls that log some messages, each on a line of its own. -/
def logBlock (messages : List String) : String :=
  "\n".intercalate (messages.map logCall)

/-- Whether a message closes all the parentheses that it opens, at some place in it or in front. -/
def ClosesAll (message : String) : Prop :=
  message.toList.count '(' ≤ message.toList.count ')'

instance (message : String) : Decidable (ClosesAll message) :=
  inferInstanceAs (Decidable (_ ≤ _))

/-- A message that can stand between quotes on a line of its own. -/
def IsQuotable (message : String) : Prop :=
  '"' ∉ message.toList ∧ '\n' ∉ message.toList

instance (message : String) : Decidable (IsQuotable message) :=
  inferInstanceAs (Decidable (_ ∧ _))

theorem logCall_toList (message : String) :
    (logCall message).toList = 'l' :: ("og(\"".toList ++ message.toList ++ ['"'] ++ [')']) := by
  simp [logCall]

theorem strip_logCall (message : String) : strip (logCall message) = logCall message := by
  rw [strip, logCall_toList, stripChars_of_ends (by decide) (by decide), ← logCall_toList,
    String.ofList_toList]

theorem isSilent_logCall (message : String) : isSilent (logCall message) = false := by
  have hne : logCall message ≠ "" := by simp [logCall]
  have hremark : beginsWith "#" (logCall message) = false := by
    rw [beginsWith, logCall_toList]
    rfl
  rw [isSilent, hremark, Bool.or_false, beq_eq_false_iff_ne]
  exact hne

theorem ofLine_logCall (message : String) :
    Statement.ofLine (logCall message) = some (.commandCall "log") := by
  rw [Statement.ofLine, logCall_toList]
  rfl

theorem parentheses_logCall (message : String) :
    parentheses (logCall message)
      = (message.toList.count '(' + 1, message.toList.count ')' + 1) := by
  simp [parentheses, logCall_toList]

/-- The arguments of a call that takes no further lines. -/
theorem argumentText_logCall (message : String) :
    argumentText (logCall message).toList = '"' :: (message.toList ++ ['"']) := by
  rw [logCall_toList]
  simp [argumentText, beforeLast]

theorem stripQuotes_quoted {message : String} (h : IsQuotable message) :
    stripQuotes (String.ofList ('"' :: (message.toList ++ ['"']))) = message :=
  QuoteStyle.stripQuotes_enclose .plain fun _ => h.1

theorem ofCall_log {message : String} (h : IsQuotable message) :
    Command.ofCall "log" (String.ofList ('"' :: (message.toList ++ ['"'])))
      = .ok (.log message) := by
  simp only [Command.ofCall, stripQuotes_quoted h]

/-! ## The lines of a block -/

theorem newlineSplit_logBlock {messages : List String} (hne : messages ≠ [])
    (h : ∀ message ∈ messages, IsQuotable message) :
    newlineSplit (logBlock messages) = messages.map logCall := by
  refine newlineSplit_intercalate (by simpa using hne) fun line hline => ?_
  obtain ⟨message, hmessage, rfl⟩ := List.mem_map.1 hline
  have hnewline := (h message hmessage).2
  simp [logCall_toList, hnewline]

/-- How many of the calls after it a call takes in. -/
def takenBy (message : String) (rest : List String) : Nat :=
  furtherLines (message.toList.count '(' + 1) (message.toList.count ')' + 1) (rest.map logCall)

/-- A call takes in the next one just when it does not close all its parentheses. -/
theorem takenBy_eq_zero_iff (message : String) (rest : List String) :
    takenBy message rest = 0 ↔ rest = [] ∨ ClosesAll message := by
  cases rest with
  | nil => simp [takenBy, furtherLines]
  | cons next rest =>
      rw [takenBy, List.map_cons, furtherLines, ClosesAll]
      split <;> simp <;> omega

theorem captureCall_logCall (message : String) (rest : List String) :
    (captureCall (logCall message) (rest.map logCall)).lines = 1 + takenBy message rest := by
  rw [captureCall, parentheses_logCall]
  rfl

theorem captureCall_logCall_content {message : String} {rest : List String}
    (h : takenBy message rest = 0) :
    (captureCall (logCall message) (rest.map logCall)).content
      = String.ofList ('"' :: (message.toList ++ ['"'])) := by
  rw [takenBy] at h
  simp only [captureCall, parentheses_logCall, h, List.take_zero, String.intercalate_singleton,
    argumentText_logCall]

/-- The steps of some calls: the first call makes one, and goes on with what it leaves. -/
theorem stepsFrom_logCall (n : Nat) (message : String) (rest : List String) :
    ∃ s, s.action = .callCommand "log"
          (captureCall (logCall message) (rest.map logCall)).content
      ∧ stepsFrom n ((message :: rest).map logCall)
        = s :: stepsFrom (n + 1 + takenBy message rest)
          ((rest.drop (takenBy message rest)).map logCall) := by
  have htaken : Action.ofStatement (some (.commandCall "log")) (logCall message)
      (rest.map logCall) = (.callCommand "log"
        (captureCall (logCall message) (rest.map logCall)).content, takenBy message rest) := by
    simp only [Action.ofStatement, captureCall_logCall, Nat.add_sub_cancel_left]
  have hspoken : ¬ isSilent (Text.strip (logCall message)) := by
    rw [strip_logCall, isSilent_logCall]
    decide
  have hstep := stepsFrom_statement n (rest.map logCall) hspoken
  rw [strip_logCall, ofLine_logCall, htaken, ← List.map_drop] at hstep
  exact ⟨_, rfl, hstep⟩

/-- Only the last call, which has none after it, may leave a parenthesis open. -/
theorem forall_mem_dropLast_cons {message : String} {rest : List String} :
    (∀ m ∈ (message :: rest).dropLast, ClosesAll m)
      ↔ takenBy message rest = 0 ∧ ∀ m ∈ rest.dropLast, ClosesAll m := by
  rw [takenBy_eq_zero_iff]
  cases rest with
  | nil => simp
  | cons next rest =>
      rw [List.dropLast_cons_cons, List.forall_mem_cons]
      simp

/-- There are as many steps as calls just when no call takes in another one. -/
theorem length_stepsFrom_logCalls (n : Nat) (messages : List String) :
    (stepsFrom n (messages.map logCall)).length ≤ messages.length
      ∧ ((stepsFrom n (messages.map logCall)).length = messages.length ↔
        ∀ m ∈ messages.dropLast, ClosesAll m) := by
  induction hlength : messages.length using Nat.strong_induction_on generalizing n messages with
  | _ k ih =>
      cases messages with
      | nil => simp [stepsFrom, ← hlength]
      | cons message rest =>
          obtain ⟨s, -, hsteps⟩ := stepsFrom_logCall n message rest
          rw [List.length_cons] at hlength
          have hdrop := List.length_drop (i := takenBy message rest) (l := rest)
          obtain ⟨hle, hiff⟩ := ih _ (by omega) (n + 1 + takenBy message rest)
            (rest.drop (takenBy message rest)) rfl
          rw [hsteps, List.length_cons, forall_mem_dropLast_cons]
          by_cases htaken : takenBy message rest = 0
          · rw [htaken, List.drop_zero] at hle hiff ⊢
            refine ⟨by omega, ?_⟩
            rw [← hiff, ← hlength, Nat.add_right_cancel_iff]
            simp
          · -- at least one call is taken in, so there are fewer steps than calls
            have hne : rest.length ≠ 0 := fun hnil =>
              htaken ((takenBy_eq_zero_iff _ _).2 (.inl (List.length_eq_zero_iff.1 hnil)))
            exact ⟨by omega, fun h => absurd h (by omega), fun h => absurd h.1 htaken⟩

theorem action_of_mem_stepsFrom (n : Nat) (messages : List String) :
    ∀ s ∈ stepsFrom n (messages.map logCall),
      ∃ arguments, s.action = .callCommand "log" arguments := by
  induction hlength : messages.length using Nat.strong_induction_on generalizing n messages with
  | _ k ih =>
      cases messages with
      | nil => simp [stepsFrom]
      | cons message rest =>
          obtain ⟨s, hs, hsteps⟩ := stepsFrom_logCall n message rest
          rw [hsteps, List.forall_mem_cons]
          refine ⟨⟨_, hs⟩, ih _ ?_ _ _ rfl⟩
          rw [List.length_cons] at hlength
          rw [List.length_drop]
          omega

theorem steps_logBlock {messages : List String} (h : ∀ message ∈ messages, IsQuotable message) :
    steps (logBlock messages) = stepsFrom 0 (messages.map logCall) := by
  cases messages with
  | nil =>
      have hempty : isSilent (strip "") := by decide +kernel
      exact (stepsFrom_silent 0 [] hempty).trans (by simp [stepsFrom])
  | cons message rest => rw [steps, newlineSplit_logBlock (List.cons_ne_nil _ _) h]

end AgentScript.Script
