import AgentScript.Value.JsonToken

set_option autoImplicit false

/-! # Reading structured text

The reader takes one token after the other and keeps the containers that are still open. How deep
they may nest is limited; a text that goes deeper is a fault of its own, told apart from a text that
is merely malformed. -/

namespace AgentScript.Value

/-- What is wrong with a JSON text. -/
inductive ReadFault where
  | malformed
  | tooDeep (container : Container)

/-- A container that is still open: its contents so far, newest first, and for a dictionary the key
    whose value is being read. -/
inductive Open where
  | list (items : List Value)
  | dict (entries : List (Value × Value)) (key : String)

/-- What may come next. -/
inductive Expected where
  /-- A value; the list that was just opened may close instead. -/
  | value (mayClose : Bool)
  /-- A key; the dictionary that was just opened may close instead. -/
  | key (mayClose : Bool)
  | colon
  | separator
  /-- Nothing more: the whole text has been read as this value. -/
  | nothing (result : Value)

/-- How far a text has been read: the open containers, innermost first, and what may follow. -/
structure Reading where
  opened : List Open
  expected : Expected

/-- How many containers may be open at once. -/
def nestingLimit : Nat := 980

/-- A value is complete: it goes into the innermost open container. -/
def Reading.complete (v : Value) : List Open → Reading
  | [] => ⟨[], .nothing v⟩
  | .list items :: outer => ⟨.list (v :: items) :: outer, .separator⟩
  | .dict entries key :: outer => ⟨.dict (putEntry (.str key) v entries) key :: outer, .separator⟩

/-- One more container opens. -/
def Reading.enter (opened : List Open) (container : Container) : Except ReadFault Reading :=
  if nestingLimit ≤ opened.length then .error (.tooDeep container)
  else
    match container with
    | .array => .ok ⟨.list [] :: opened, .value true⟩
    | .object => .ok ⟨.dict [] "" :: opened, .key true⟩

/-- Read one more token. -/
def Reading.step (r : Reading) (t : Token) : Except ReadFault Reading :=
  match r.expected, t, r.opened with
  | .value _, .atom v, opened => .ok (.complete v opened)
  | .value _, .openList, opened => Reading.enter opened .array
  | .value _, .openDict, opened => Reading.enter opened .object
  | .value true, .closeList, .list items :: outer => .ok (.complete (.list items.reverse) outer)
  | .key _, .atom (.str key), .dict entries _ :: outer => .ok ⟨.dict entries key :: outer, .colon⟩
  | .key true, .closeDict, .dict entries _ :: outer => .ok (.complete (.dict entries) outer)
  | .colon, .colon, opened => .ok ⟨opened, .value false⟩
  | .separator, .comma, .list items :: outer => .ok ⟨.list items :: outer, .value false⟩
  | .separator, .closeList, .list items :: outer => .ok (.complete (.list items.reverse) outer)
  | .separator, .comma, .dict entries key :: outer => .ok ⟨.dict entries key :: outer, .key false⟩
  | .separator, .closeDict, .dict entries _ :: outer => .ok (.complete (.dict entries) outer)
  | _, _, _ => .error .malformed

/-- Read all tokens. -/
def Reading.run (r : Reading) : List Token → Except ReadFault Reading
  | [] => .ok r
  | t :: rest => do
    let next ← r.step t
    next.run rest

/-- The value that a JSON text writes. -/
def readJson (s : List Char) : Except ReadFault Value := do
  let r ← Reading.run ⟨[], .value false⟩ (tokens s)
  match r.expected with
  | .nothing v => .ok v
  | _ => .error .malformed

/-! ## Text that looks structured -/

/-- Whether a value is a text that begins like a list or a dictionary. -/
def looksLikeJson : Value → Bool
  | .str text =>
    match text.toList with
    | c :: _ => c == '[' || c == '\x7b'
    | [] => false
  | _ => false

/-- The value that a text writes, if it looks like JSON and is well formed; every other value is
    left as it is. -/
def decodeJson (v : Value) : Except Failure Value :=
  match v with
  | .str text =>
    if v.looksLikeJson then
      match readJson text.toList with
      | .ok decoded => .ok decoded
      | .error .malformed => .ok v
      | .error (.tooDeep container) => .error (.nestedTooDeep container)
    else .ok v
  | _ => .ok v

end AgentScript.Value
