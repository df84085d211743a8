import AgentScript.Proofs.Text.Markup
import AgentScript.Workspace.Message

set_option autoImplicit false

/-! # The card of a failure

The card that reports a failure shows its text and nothing else: the text cannot bring in any markup
of its own, it can be read back from the card, and so failures with different texts have different
cards (`ChatMessage.ofFailure_shows`). -/

namespace AgentScript

/-- What is said of a failure that says nothing itself. -/
def untoldText : String := "Unknown error occurred."

/-- A failure that is reported like one that says nothing. -/
def Failure.IsUntold (f : Failure) : Prop :=
  f.message = "" ∨ f.message = untoldText

theorem Failure.notice_eq (f : Failure) :
    f.notice = if f.message = "" then untoldText else f.message :=
  rfl

/-- Two failures read the same just in case their texts are the same, or neither says anything. -/
theorem Failure.notice_eq_iff (f g : Failure) :
    f.notice = g.notice ↔ f.message = g.message ∨ f.IsUntold ∧ g.IsUntold := by
  have huntold : untoldText ≠ "" := by decide
  unfold IsUntold
  rw [f.notice_eq, g.notice_eq]
  by_cases hf : f.message = ""
  · by_cases hg : g.message = ""
    · simp [hf, hg]
    · simp [hf, hg, eq_comm]
  · by_cases hg : g.message = ""
    · simp [hf, hg]
    · simp only [hf, hg, if_false, false_or]
      exact ⟨.inl, fun h => h.elim id fun ⟨hf, hg⟩ => hf.trans hg.symm⟩

namespace ChatMessage

/-- The card between its fixed parts is the escaped text. -/
theorem errorCard_inj {s t : String} : errorCard s = errorCard t ↔ s = t := by
  refine ⟨fun h => ?_, congrArg errorCard⟩
  rw [errorCard, errorCard, String.append_left_inj, String.append_right_inj] at h
  exact Text.escapeMarkup_inj.1 h

/-- The card of a failure is the same for all failures up to the text in it. That text holds no
    markup, and read back it is what the failure says, or the placeholder if it says nothing. Two
    failures have the same card just in case they say the same, the placeholder aside. -/
theorem ofFailure_shows (f g : Failure) :
    (∃ shown, (ofFailure f).displayHtml = cardOpening ++ shown ++ cardClosing
        ∧ Text.IsInert shown
        ∧ Text.unescapeMarkup shown = if f.message = "" then untoldText else f.message)
      ∧ ((ofFailure f).displayHtml = (ofFailure g).displayHtml
        ↔ f.message = g.message ∨ f.IsUntold ∧ g.IsUntold) := by
  refine ⟨⟨Text.escapeMarkup f.notice, rfl, Text.escapeMarkup_isInert _, ?_⟩, ?_⟩
  · rw [Text.unescapeMarkup_escapeMarkup]
    exact f.notice_eq
  · rw [← Failure.notice_eq_iff]
    exact errorCard_inj

end ChatMessage

end AgentScript
