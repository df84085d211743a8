import AgentScript.Proofs.Context.Token
import AgentScript.Proofs.Script.Composition

set_option autoImplicit false

/-! # Names in statements

A statement that writes a name takes whatever stands between the quotes, as long as that is
something (`isNamed_of_ofLine`). A call of an agent takes a run of word characters
(`ofLine_callLine_iff`). -/

namespace AgentScript.Script

open Context (IsReadable)

/-! ## Calls of agents -/

/-- The line that calls an agent. -/
def callLine (agent arguments : String) : String :=
  "runAI as " ++ agent ++ "(" ++ arguments ++ ")"

theorem readCall_word {name rest : List Char} (hne : name ≠ [])
    (h : ∀ x ∈ name, Text.isWordChar x) :
    readCall (name ++ '(' :: rest) = some (String.ofList name) := by
  have hparen : ∀ x ∈ ('(' :: rest).head?, Text.isWordChar x = false := by
    rintro x ⟨⟩
    decide
  have hname : readName (name ++ '(' :: rest) = some (String.ofList name, '(' :: rest) := by
    rw [readName, Text.takeWhile_run h hparen, Text.dropWhile_run h hparen]
    cases name with
    | nil => exact absurd rfl hne
    | cons x name => rfl
  rw [readCall, hname]
  rfl

theorem isReadable_of_readCall {s : List Char} {name : String} (h : readCall s = some name) :
    IsReadable name := by
  unfold readCall readName at h
  cases hword : s.takeWhile Text.isWordChar with
  | nil =>
      rw [hword] at h
      cases h
  | cons x word =>
      rw [hword] at h
      obtain ⟨named, hnamed, hcalled⟩ := Option.bind_eq_some_iff.1 h
      cases hnamed
      obtain ⟨rest, -, hname⟩ := Option.bind_eq_some_iff.1 hcalled
      obtain rfl : String.ofList (x :: word) = name := Option.some.inj hname
      refine ⟨by simp, ?_⟩
      rw [String.toList_ofList]
      intro y hy
      exact List.mem_takeWhile_imp (hword ▸ hy)

/-! ## The names in a statement -/

theorem leadingQuoted_ne_empty {s : List Char} {name : String}
    (h : leadingQuoted s = some name) : name ≠ "" := by
  unfold leadingQuoted at h
  split at h
  · split at h
    · cases h
      simp
    · cases h
  · cases h

/-- What the names in a statement are like: those that are called have word characters only, and
    those between quotes are not empty. -/
def Statement.IsNamed : Statement → Prop
  | .agentCall name | .commandCall name => IsReadable name
  | .getOutput name? | .setId name? => ∀ name ∈ name?, name ≠ ""
  | .overrideStart | .expand => True

theorem isNamed_of_ofLine {line : String} {s : Statement} (h : Statement.ofLine line = some s) :
    s.IsNamed := by
  unfold Statement.ofLine at h
  dsimp only at h
  split at h
  · cases h
    trivial
  split at h
  · cases h
    trivial
  split at h
  · next agent hagent =>
      cases h
      obtain ⟨rest, -, hrest⟩ := Option.bind_eq_some_iff.1 hagent
      exact isReadable_of_readCall hrest
  split at h
  · next name hname =>
      cases h
      exact isReadable_of_readCall hname
  split at h
  · cases h
    exact fun name hname => leadingQuoted_ne_empty hname
  · obtain ⟨rest, -, rfl⟩ := Option.map_eq_some_iff.1 h
    exact fun name hname => leadingQuoted_ne_empty hname

/-- A remark or a blank line begins no statement. -/
theorem ofLine_of_isSilent {line : String} (h : isSilent line) : Statement.ofLine line = none := by
  rcases Bool.or_eq_true_iff.1 h with hempty | hremark
  · rw [beq_iff_eq.1 hempty]
    rfl
  · rw [Text.beginsWith] at hremark
    rw [Statement.ofLine]
    cases hline : line.toList with
    | nil => rfl
    | cons x rest =>
        have hx : x = '#' := by
          rw [hline] at hremark
          simp [Text.matchText] at hremark
          exact hremark.symm
        subst hx
        rfl

/-- Just the names of word characters can be called. -/
theorem ofLine_callLine_iff {agent arguments : String} :
    Statement.ofLine (callLine agent arguments) = some (.agentCall agent)
      ↔ IsReadable agent := by
  constructor
  · exact isNamed_of_ofLine
  · intro h
    have hne : agent.toList ≠ [] := fun hnil => h.1 (String.toList_eq_nil_iff.1 hnil)
    have hchars : (callLine agent arguments).toList
        = "runAI as ".toList ++ (agent.toList ++ '(' :: (arguments.toList ++ [')'])) := by
      simp [callLine, String.toList_append]
    have hstart : (agent.toList ++ '(' :: (arguments.toList ++ [')'])).dropWhile Text.isBlank
        = agent.toList ++ '(' :: (arguments.toList ++ [')']) := by
      cases hagent : agent.toList with
      | nil => exact absurd hagent hne
      | cons x rest =>
          have hx : Text.isBlank x = false :=
            Text.isBlank_of_isWordChar (h.2 x (hagent ▸ List.mem_cons_self))
          rw [List.cons_append, List.dropWhile_cons_of_neg (by simp [hx])]
    have hafter (s : List Char) :
        afterPhrase agentPhrase ("runAI as ".toList ++ s) = some (s.dropWhile Text.isBlank) := rfl
    have hcall : readCall (agent.toList ++ '(' :: (arguments.toList ++ [')'])) = some agent := by
      rw [readCall_word hne h.2, String.ofList_toList]
    have hopening (s : List Char) :
        BlockName.overridePrompt.opening.match? ("runAI as ".toList ++ s) = none := rfl
    have hexpand (s : List Char) : expandPhrase.match? ("runAI as ".toList ++ s) = none := rfl
    simp only [Statement.ofLine, hchars, hopening, hexpand, hafter, hstart, Option.bind_some,
      hcall]
    rfl

end AgentScript.Script
