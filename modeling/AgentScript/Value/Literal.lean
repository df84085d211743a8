import AgentScript.Value.Basic
import AgentScript.Decimal.Integer

set_option autoImplicit false

/-! # Literals

The literal of a value is how it is written in code: texts in quotes, tuples in parentheses, a
tuple of one item with a comma after it. Only an integer with too many digits has none. -/

namespace AgentScript.Value

/-- Texts with a comma and a space between them. -/
def commaSeparated : List (List Char) → List Char
  | [] => []
  | [item] => item
  | item :: rest => item ++ ", ".toList ++ commaSeparated rest

mutual

/-- The characters of a value's literal. -/
def literalChars : Value → Except Failure (List Char)
  | .null => .ok "None".toList
  | .bool b => .ok (if b then "True" else "False").toList
  | .int n => (Decimal.writeInteger? n).elim (.error .integerTooLong) .ok
  | .float x => .ok (Decimal.plain.write x).toList
  | .str text => .ok (Text.quoteChars text.toList)
  | .bytes content => .ok (Text.quotedBytes content).toList
  | .list items => do
    let texts ← literalItems items
    return '[' :: commaSeparated texts ++ [']']
  | .tuple items => do
    let texts ← literalItems items
    return '(' :: commaSeparated texts ++ (if texts.length = 1 then [',', ')'] else [')'])
  | .dict entries => do
    let texts ← literalEntries entries
    return '\x7b' :: commaSeparated texts ++ ['\x7d']

/-- The literals of a list of values. -/
def literalItems : List Value → Except Failure (List (List Char))
  | [] => .ok []
  | item :: rest => do
    let text ← literalChars item
    let texts ← literalItems rest
    return text :: texts

/-- The literals of a dictionary's entries. -/
def literalEntries : List (Value × Value) → Except Failure (List (List Char))
  | [] => .ok []
  | (key, value) :: rest => do
    let keyText ← literalChars key
    let valueText ← literalChars value
    let texts ← literalEntries rest
    return (keyText ++ ": ".toList ++ valueText) :: texts

end

/-- A value's literal. -/
def literal (v : Value) : Except Failure String :=
  (literalChars v).map String.ofList

end AgentScript.Value
