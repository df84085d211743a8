import AgentScript.Failure
import AgentScript.Text.Markup
import AgentScript.Workspace.Basic

set_option autoImplicit false

/-! # The messages of a run

A run ends with at most one message: its answer, or a card that tells why it failed. -/

namespace AgentScript.ChatMessage

/-- The headline of every failure. -/
def failureText : String := "🛑 Script Execution Failed!"

/-- The card up to the text of the failure. -/
def cardOpening : String :=
  "\n<div class=\"flowscript-error\">\n" ++
  "    <div class=\"flowscript-error-title\">\n" ++
  "        <span class=\"material-symbols-outlined\">error_outline</span>\n" ++
  "        <span>EXECUTION HALTED</span>\n" ++
  "    </div>\n" ++
  "    <div class=\"flowscript-error-message\">"

/-- The card after the text of the failure. -/
def cardClosing : String := "</div>\n</div>\n"

/-- The card around a text, whose markup is escaped. -/
def errorCard (text : String) : String :=
  cardOpening ++ Text.escapeMarkup text ++ cardClosing

/-- The message that reports a failure. -/
def ofFailure (f : Failure) : ChatMessage :=
  { role := "model", type := "system", text := failureText, displayHtml := errorCard f.notice }

/-- The message that gives an answer. -/
def ofAnswer (text markup : String) : ChatMessage :=
  { role := "model", type := "text", text := text, displayHtml := markup }

end AgentScript.ChatMessage
