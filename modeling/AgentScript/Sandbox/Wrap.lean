import AgentScript.Text.Blank

set_option autoImplicit false

/-! # Wrapping code

Code runs as the body of a function, so that it may return a value. For that every line of it that
holds anything is indented by four spaces. -/

namespace AgentScript.Sandbox

/-- A line, indented unless there are only blanks in it. -/
def indentLine (line : List Char) : List Char :=
  if line.all Text.isBlank then line else "    ".toList ++ line

/-- The lines of a text, indented. -/
def indentText (text : List Char) : List Char :=
  (Text.splitLines text).flatMap indentLine

/-- The function that code becomes. -/
def wrapCode (code : String) : String :=
  String.ofList ("async def main():\n".toList ++ indentText code.toList ++ ['\n'])

end AgentScript.Sandbox
