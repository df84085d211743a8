import AgentScript.Value.JsonReader

set_option autoImplicit false

/-! # Paths into values

A dotted path such as `meta.title` or `items.0` names a value inside another one: each step is a
key of a dictionary or a position in a list. Following a path may find nothing, which is `none`; it
fails only where a position cannot be read as a number. -/

namespace AgentScript.Value

/-- The value one step inside another. -/
def descend (v : Value) (key : String) : Except Failure (Option Value) :=
  match v with
  | .dict entries => .ok (valueAt? key entries)
  | .list items =>
    if !key.toList.isEmpty && key.toList.all Text.isDigit then
      (Decimal.readNatural key).map fun position => items[position]?
    else .ok none
  | _ => .ok none

/-- The value at the end of a list of steps. Null stops the descent and is the result. -/
def follow (v : Value) : List String → Except Failure (Option Value)
  | [] => .ok (some v)
  | key :: rest =>
    match v with
    | .null => .ok (some .null)
    | _ => do
      match ← v.descend key with
      | some inner => inner.follow rest
      | none => .ok none

end AgentScript.Value
