import AgentScript.Value.Literal

set_option autoImplicit false

/-! # Structured text

How a list or a dictionary is written as JSON. Tuples are written like lists; keys that are not text
become the text of what they would be as values. Bytes and tuples as keys have no JSON form, and
neither has an integer with too many digits. -/

namespace AgentScript.Value

/-- How `c` is written inside a JSON string. -/
def escapeJsonChar (c : Char) : List Char :=
  if c == '"' then ['\\', '"']
  else if c == '\\' then ['\\', '\\']
  else if c == '\n' then ['\\', 'n']
  else if c == '\r' then ['\\', 'r']
  else if c == '\t' then ['\\', 't']
  else if c == '\x08' then ['\\', 'b']
  else if c == '\x0c' then ['\\', 'f']
  else if c.toNat < 0x20 then '\\' :: 'u' :: Text.hexPadded 4 c.toNat
  else [c]

/-- A text as a JSON string. -/
def jsonString (text : List Char) : List Char :=
  '"' :: text.flatMap escapeJsonChar ++ ['"']

/-- The text that stands for a key. -/
def jsonKey? : Value → Option (List Char)
  | .str text => some text.toList
  | .null => some "null".toList
  | .bool b => some (if b then "true" else "false").toList
  | .int n => Decimal.writeInteger? n
  | .float x => some (Decimal.structured.write x).toList
  | .bytes _ | .list _ | .tuple _ | .dict _ => none

mutual

/-- The JSON form of a value. -/
def jsonChars? : Value → Option (List Char)
  | .null => some "null".toList
  | .bool b => some (if b then "true" else "false").toList
  | .int n => Decimal.writeInteger? n
  | .float x => some (Decimal.structured.write x).toList
  | .str text => some (jsonString text.toList)
  | .bytes _ => none
  | .list items | .tuple items =>
    (jsonItems? items).map fun texts => '[' :: commaSeparated texts ++ [']']
  | .dict entries =>
    (jsonEntries? entries).map fun texts => '\x7b' :: commaSeparated texts ++ ['\x7d']

/-- The JSON forms of a list of values. -/
def jsonItems? : List Value → Option (List (List Char))
  | [] => some []
  | item :: rest => do
    let text ← jsonChars? item
    let texts ← jsonItems? rest
    return text :: texts

/-- The JSON forms of a dictionary's entries. -/
def jsonEntries? : List (Value × Value) → Option (List (List Char))
  | [] => some []
  | (key, value) :: rest => do
    let keyText ← jsonKey? key
    let valueText ← jsonChars? value
    let texts ← jsonEntries? rest
    return (jsonString keyText ++ ": ".toList ++ valueText) :: texts

end

/-- The text that stands for a value inside other text: a text stands for itself, lists and
    dictionaries are written as JSON where they can be, and everything else as its literal. -/
def toText : Value → Except Failure String
  | .str text => .ok text
  | .null => .ok "null"
  | .bool b => .ok (if b then "true" else "false")
  | v@(.list _) | v@(.dict _) =>
    match jsonChars? v with
    | some text => .ok (String.ofList text)
    | none => literal v
  | v => literal v

end AgentScript.Value
