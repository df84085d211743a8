import AgentScript.Text.Quoted

set_option autoImplicit false

/-! # Records in a trace

A trace shows a record as its name with its fields in parentheses, every text as a literal. -/

namespace AgentScript.Text

/-- The literal of a text that may be absent. -/
def quoted? (s : Option String) : String :=
  s.elim "None" quoted

/-- A field of a record. -/
def fieldText (f : String × String) : String :=
  f.1 ++ "=" ++ f.2

/-- A record with the given fields, whose values are written out already. -/
def record (name : String) (fields : List (String × String)) : String :=
  name ++ "(" ++ String.intercalate ", " (fields.map fieldText) ++ ")"

end AgentScript.Text
