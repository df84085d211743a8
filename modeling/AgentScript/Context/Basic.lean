import AgentScript.Bindings
import AgentScript.Value.Path

set_option autoImplicit false

/-! # Contexts

The context of a run binds names to values. `prompt` and `answer` are bound from the start; all
other names come from the script. -/

namespace AgentScript

/-- The names of a run and what they stand for. -/
structure Context where
  bindings : Bindings Value

namespace Context

/-- The context at the start of a run, with further names bound after the two that every run has. -/
def initial (prompt answer : Value) (values : List (String × Value)) : Context :=
  ⟨(Bindings.ofList [("prompt", prompt), ("answer", answer)]).putAll values⟩

/-- The value bound to `name`. -/
def get? (c : Context) (name : String) : Option Value :=
  c.bindings.get? name

/-- Bind `name` to a value. -/
def put (c : Context) (name : String) (v : Value) : Context :=
  ⟨c.bindings.put name v⟩

/-- The value bound to `name`, which must be bound. -/
def require (c : Context) (name : String) : Except Failure Value :=
  (c.get? name).elim (.error (.unboundName name)) .ok

/-- The answer as text; null counts as no text at all. -/
def answer (c : Context) : Except Failure String :=
  match c.get? "answer" with
  | none | some .null => .ok ""
  | some v => v.toText

/-- The steps of a dotted path. -/
def steps (path : String) : List String :=
  (Text.splitOnChar '.' path.toList).map String.ofList

/-- The value that a dotted path leads to. Its first step is a name; if more steps follow, a text
    that looks like JSON is decoded before they are taken. -/
def lookup (c : Context) (path : String) : Except Failure (Option Value) :=
  match steps path with
  | [] => .ok none
  | head :: rest =>
    match c.get? head with
    | none => .ok none
    | some v =>
      if rest.isEmpty then .ok (some v)
      else do (← Value.decodeJson v).follow rest

/-- The context as code that would build it. -/
def literal (c : Context) : Except Failure String := do
  let entries := c.bindings.entries.map fun (name, v) => (Value.str name, v)
  let text ← Value.literal (.dict entries)
  return "ExecutionContext(" ++ text ++ ")"

end Context

end AgentScript
