set_option autoImplicit false

/-! # Text inside markup

The three characters that markup gives a meaning to are written as entities. -/

namespace AgentScript.Text

/-- How `c` is written inside markup. -/
def escapeMarkupChar (c : Char) : List Char :=
  if c == '&' then "&amp;".toList
  else if c == '<' then "&lt;".toList
  else if c == '>' then "&gt;".toList
  else [c]

/-- The text with the three characters replaced by their entities. -/
def escapeMarkup (s : String) : String :=
  String.ofList (s.toList.flatMap escapeMarkupChar)

end AgentScript.Text
