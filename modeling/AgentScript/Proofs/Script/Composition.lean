import AgentScript.Proofs.Text.Line
import AgentScript.Script.Step

set_option autoImplicit false

/-! # Blocks one after the other

A block is *closed* if no statement in it needs lines from beyond its end: every call that it begins
closes the parentheses that it opens, and every override that it begins is ended. The steps of a
closed block are not changed by what follows it (`steps_append`): the lines after it make the steps
that they make on their own, under higher line numbers. -/

namespace AgentScript.Script

/-! ## Closed blocks -/

/-- How many parentheses some lines open. -/
def openedIn : List String → Nat
  | [] => 0
  | line :: rest => (parentheses line).1 + openedIn rest

/-- How many parentheses some lines close. -/
def closedIn : List String → Nat
  | [] => 0
  | line :: rest => (parentheses line).2 + closedIn rest

/-- Whether a statement is a call, whose arguments may take further lines. -/
def Statement.isCall : Statement → Bool
  | .agentCall _ | .commandCall _ => true
  | _ => false

/-- Whether a statement begins an override, which takes the lines up to its end. -/
def Statement.isOverride : Statement → Bool
  | .overrideStart => true
  | _ => false

/-- A statement that begins on `line` gets what it needs from the lines `rest` after it. -/
structure IsComplete (s : Option Statement) (line : String) (rest : List String) : Prop where
  /-- A call has as many closing parentheses as opening ones by the end of some line. -/
  call : s.any Statement.isCall →
    ∃ n ≤ rest.length, openedIn (line :: rest.take n) ≤ closedIn (line :: rest.take n)
  /-- An override has an end. -/
  override : s.any Statement.isOverride → ∃ l ∈ rest, isOverrideEnd l

instance (s : Option Statement) (line : String) (rest : List String) :
    Decidable (IsComplete s line rest) :=
  decidable_of_iff
    ((s.any Statement.isCall →
        ∃ n ≤ rest.length, openedIn (line :: rest.take n) ≤ closedIn (line :: rest.take n)) ∧
      (s.any Statement.isOverride → ∃ l ∈ rest, isOverrideEnd l))
    ⟨fun h => ⟨h.1, h.2⟩, fun h => ⟨h.call, h.override⟩⟩

/-- Whether every statement that begins in some lines is complete within them. -/
def AreClosed : List String → Prop
  | [] => True
  | line :: rest =>
    let text := Text.strip line
    if isSilent text then AreClosed rest
    else
      let statement := Statement.ofLine text
      IsComplete statement line rest ∧
        AreClosed (rest.drop (Action.ofStatement statement line rest).2)
termination_by lines => lines.length
decreasing_by
  · simp
  · simp only [List.length_drop, List.length_cons]
    omega

/-- Whether lines are closed can be decided from the top. -/
instance decideAreClosed : (lines : List String) → Decidable (AreClosed lines)
  | [] => .isTrue (by rw [AreClosed]; trivial)
  | line :: rest =>
    have := decideAreClosed rest
    have := decideAreClosed
      (rest.drop (Action.ofStatement (Statement.ofLine (Text.strip line)) line rest).2)
    decidable_of_iff _ (iff_of_eq (AreClosed.eq_2 line rest)).symm
termination_by lines => lines.length
decreasing_by
  · simp
  · simp only [List.length_drop, List.length_cons]
    omega

/-- Whether every statement that begins in a block is complete within it. -/
def IsClosed (block : String) : Prop :=
  AreClosed (Text.newlineSplit block)

instance (block : String) : Decidable (IsClosed block) :=
  decideAreClosed _

/-! ## What a complete statement takes in -/

theorem furtherLines_le (opened closed : Nat) (lines : List String) :
    furtherLines opened closed lines ≤ lines.length := by
  induction lines generalizing opened closed with
  | nil => simp [furtherLines]
  | cons line rest ih =>
      rw [furtherLines, List.length_cons]
      split
      · have := ih (opened + (parentheses line).1) (closed + (parentheses line).2)
        omega
      · omega

/-- A call that is closed by the end of some line takes in no lines beyond that. -/
theorem furtherLines_append (opened closed : Nat) (lines more : List String) (n : Nat)
    (hn : n ≤ lines.length)
    (h : opened + openedIn (lines.take n) ≤ closed + closedIn (lines.take n)) :
    furtherLines opened closed (lines ++ more) = furtherLines opened closed lines := by
  induction lines generalizing opened closed n with
  | nil =>
      have hle : opened ≤ closed := by simpa [openedIn, closedIn] using h
      cases more with
      | nil => rfl
      | cons line rest => simp [furtherLines, Nat.not_lt.2 hle]
  | cons line rest ih =>
      rw [List.cons_append, furtherLines, furtherLines]
      split
      · next hlt =>
          -- the call goes on, so it cannot have been closed by the lines so far
          cases n with
          | zero => exact absurd (by simpa [openedIn, closedIn] using h) (Nat.not_le.2 hlt)
          | succ k =>
              rw [ih _ _ k (by simpa using hn)]
              simpa [openedIn, closedIn, Nat.add_assoc] using h
      · rfl

theorem captureCall_append (line : String) (rest more : List String) (n : Nat)
    (hn : n ≤ rest.length)
    (h : openedIn (line :: rest.take n) ≤ closedIn (line :: rest.take n)) :
    captureCall line (rest ++ more) = captureCall line rest := by
  have hsame : furtherLines (parentheses line).1 (parentheses line).2 (rest ++ more)
      = furtherLines (parentheses line).1 (parentheses line).2 rest :=
    furtherLines_append _ _ rest more n hn (by simpa [openedIn, closedIn] using h)
  simp only [captureCall, hsame, List.take_append_of_le_length (furtherLines_le _ _ rest)]

theorem captureCall_lines_le (line : String) (rest : List String) :
    (captureCall line rest).lines - 1 ≤ rest.length := by
  simpa [captureCall] using furtherLines_le _ _ rest

theorem length_takeWhile_lt {α : Type} (p : α → Bool) (s : List α) (h : ∃ a ∈ s, ¬ p a) :
    (s.takeWhile p).length < s.length := by
  induction s with
  | nil => simp at h
  | cons a rest ih =>
      rw [List.takeWhile_cons]
      split
      · next ha => simpa using ih (by simpa [ha] using h)
      · simp

/-- A complete statement makes the same step, whatever follows. -/
theorem ofStatement_append {s : Option Statement} {line : String} {rest : List String}
    (h : IsComplete s line rest) (more : List String) :
    Action.ofStatement s line (rest ++ more) = Action.ofStatement s line rest := by
  rcases s with _ | (_ | agent | name | name | agent | _)
  case some.overrideStart =>
    have hend : ∃ l ∈ rest, ¬ (!isOverrideEnd l) := by simpa using h.override rfl
    have hlt := length_takeWhile_lt (fun l => !isOverrideEnd l) rest hend
    simp only [Action.ofStatement, List.takeWhile_append, if_neg (Nat.ne_of_lt hlt)]
  case some.agentCall | some.commandCall =>
    obtain ⟨n, hn, hclosed⟩ := h.call rfl
    simp only [Action.ofStatement, captureCall_append line rest more n hn hclosed]
  all_goals rfl

/-- A complete statement takes in lines that are there. -/
theorem ofStatement_lines_le {s : Option Statement} {line : String} {rest : List String}
    (h : IsComplete s line rest) : (Action.ofStatement s line rest).2 ≤ rest.length := by
  rcases s with _ | (_ | agent | name | name | agent | _)
  case some.overrideStart => exact length_takeWhile_lt _ rest (by simpa using h.override rfl)
  case some.agentCall | some.commandCall => exact captureCall_lines_le line rest
  all_goals exact Nat.zero_le _

/-! ## The steps of blocks one after the other -/

theorem stepsFrom_silent (n : Nat) {line : String} (rest : List String)
    (h : isSilent (Text.strip line)) : stepsFrom n (line :: rest) = stepsFrom (n + 1) rest := by
  rw [stepsFrom, if_pos h]

theorem stepsFrom_statement (n : Nat) {line : String} (rest : List String)
    (h : ¬ isSilent (Text.strip line)) :
    stepsFrom n (line :: rest)
      = ⟨n, Text.strip line, Statement.ofLine (Text.strip line),
          (Action.ofStatement (Statement.ofLine (Text.strip line)) line rest).1⟩ ::
        stepsFrom
          (n + 1 + (Action.ofStatement (Statement.ofLine (Text.strip line)) line rest).2)
          (rest.drop (Action.ofStatement (Statement.ofLine (Text.strip line)) line rest).2) := by
  rw [stepsFrom, if_neg h]

/-- The step on a line further down. -/
def Step.lower (n : Nat) (s : Step) : Step :=
  { s with line := n + s.line }

/-- The lines that follow closed ones make the steps that they make on their own. -/
theorem stepsFrom_append (n : Nat) (lines more : List String) (h : AreClosed lines) :
    stepsFrom n (lines ++ more) = stepsFrom n lines ++ stepsFrom (n + lines.length) more := by
  fun_induction AreClosed lines generalizing n with
  | case1 => simp [stepsFrom]
  | case2 line rest text hsilent ih =>
      have hlast : n + 1 + rest.length = n + (line :: rest).length := by
        rw [List.length_cons]; omega
      rw [List.cons_append, stepsFrom_silent n _ hsilent, stepsFrom_silent n _ hsilent, ih _ h,
        hlast]
  | case3 line rest text hsilent statement ih =>
      obtain ⟨hcomplete, hrest⟩ := h
      -- the statement leaves off within the closed lines, so the rest of them is closed again
      have hle := ofStatement_lines_le hcomplete
      have hlast : n + 1 + (Action.ofStatement statement line rest).2
          + (rest.drop (Action.ofStatement statement line rest).2).length
          = n + (line :: rest).length := by
        rw [List.length_drop, List.length_cons]; omega
      rw [List.cons_append, stepsFrom_statement n _ hsilent, stepsFrom_statement n _ hsilent,
        ofStatement_append hcomplete, List.drop_append_of_le_length hle, ih _ hrest, hlast,
        List.cons_append]

theorem stepsFrom_add (n m : Nat) (lines : List String) :
    stepsFrom (n + m) lines = (stepsFrom m lines).map (Step.lower n) := by
  fun_induction stepsFrom m lines with
  | case1 m => simp [stepsFrom]
  | case2 m line rest text hsilent ih => rw [stepsFrom_silent _ _ hsilent, Nat.add_assoc, ih]
  | case3 m line rest text hsilent statement taken ih =>
      rw [stepsFrom_statement _ _ hsilent, List.map_cons, ← ih]
      simp only [Step.lower, Nat.add_assoc]
      rfl

/-- The steps of a closed block and a second block after it. -/
theorem steps_append {a : String} (h : IsClosed a) (b : String) :
    steps (a ++ "\n" ++ b)
      = steps a ++ (steps b).map (Step.lower (Text.newlineSplit a).length) := by
  rw [steps, Text.newlineSplit_append, stepsFrom_append 0 _ _ h, Nat.zero_add,
    ← Nat.add_zero (Text.newlineSplit a).length, stepsFrom_add, Nat.add_zero]
  rfl

end AgentScript.Script
