import AgentScript.Command.Reader
import AgentScript.Proofs.Script.Quotes

set_option autoImplicit false

/-! # Commands with an argument of their own

Some commands have a single argument, which is not named. Triple quotes around it are taken off and
nothing else is, even if it is full of quotes itself; so are single quotes, unless they look like
triple ones (`ofCall_positional_quoted`). -/

namespace AgentScript.Command

open Script (QuoteStyle HasQuotesAtEnds stripQuotes)
open Text (isBlank)

/-- The names of the commands with a single argument, and what they make of it. -/
def positionalCalls : List (String × (String → Command)) :=
  [("log", .log), ("getNote", .getNote), ("deleteNote", .deleteNote), ("createAI", .createAI),
   ("deleteFile", .deleteFile), ("getFile", .getFile)]

/-- All these commands read their argument in the same way. -/
theorem ofCall_positional {name : String} {make : String → Command}
    (h : (name, make) ∈ positionalCalls) (arguments : String) :
    ofCall name arguments = .ok (make (stripQuotes arguments)) := by
  simp only [positionalCalls, List.mem_cons, Prod.mk.injEq, List.not_mem_nil, or_false] at h
  rcases h with ⟨rfl, rfl⟩ | ⟨rfl, rfl⟩ | ⟨rfl, rfl⟩ | ⟨rfl, rfl⟩ | ⟨rfl, rfl⟩ | ⟨rfl, rfl⟩ <;> rfl

/-- Three quotes at either end of a text are taken off with the blanks around them, and nothing else
    is. A single quote at either end is taken off in this way just in case the text between them is
    not one of four characters or more with two quotes at either end. So a command with a single
    argument gets what stands between triple quotes as it is. -/
theorem ofCall_positional_quoted (t : String) {left right : String}
    (hleft : ∀ c ∈ left.toList, isBlank c) (hright : ∀ c ∈ right.toList, isBlank c) :
    stripQuotes (left ++ QuoteStyle.triple.enclose t ++ right) = t
      ∧ (stripQuotes (left ++ QuoteStyle.plain.enclose t ++ right) = t ↔ ¬ HasQuotesAtEnds t)
      ∧ (∀ name make, (name, make) ∈ positionalCalls →
        ofCall name (left ++ QuoteStyle.triple.enclose t ++ right) = .ok (make t))
      ∧ ∀ agent, ofAgentCall agent (left ++ QuoteStyle.triple.enclose t ++ right)
        = .runAgent agent t := by
  have htriple : stripQuotes (left ++ QuoteStyle.triple.enclose t ++ right) = t := by
    rw [Script.stripQuotes_blanks hleft hright, QuoteStyle.stripQuotes_enclose_triple]
  refine ⟨htriple, ?_, fun name make h => ?_, fun agent => ?_⟩
  · rw [Script.stripQuotes_blanks hleft hright, QuoteStyle.stripQuotes_enclose_plain_iff]
  · rw [ofCall_positional h, htriple]
  · rw [ofAgentCall, htriple]

theorem ofCall_positional_quoted_quotes :
    (∀ c ∈ "\t\u2003".toList, isBlank c) ∧ (∀ c ∈ "\n".toList, isBlank c)
      ∧ stripQuotes "\t\u2003\"\"\"\"\"(\"\"\"\"\"\n" = "\"\"(\"\""
      ∧ HasQuotesAtEnds "\"\"(\"\""
      ∧ stripQuotes "\t\u2003\"\"\"(\"\"\"\n" ≠ "\"\"(\"\""
      ∧ ofCall "getFile" "\t\u2003\"\"\"\"\"(\"\"\"\"\"\n" = .ok (.getFile "\"\"(\"\"")
      ∧ ofAgentCall "critic" "\t\u2003\"\"\"\"\"(\"\"\"\"\"\n"
        = .runAgent "critic" "\"\"(\"\"" := by
  have hleft : ∀ c ∈ "\t\u2003".toList, isBlank c := List.all_eq_true.1 (by decide +kernel)
  have hright : ∀ c ∈ "\n".toList, isBlank c := List.all_eq_true.1 (by decide +kernel)
  have hends : HasQuotesAtEnds "\"\"(\"\"" := by
    refine ⟨?_, ?_, ?_⟩ <;> decide
  obtain ⟨htriple, hplain, hcall, hagent⟩ := ofCall_positional_quoted "\"\"(\"\"" hleft hright
  exact ⟨hleft, hright, htriple, hends, fun heq => hplain.1 heq hends,
    hcall "getFile" .getFile (by simp [positionalCalls]), hagent "critic"⟩

end AgentScript.Command
