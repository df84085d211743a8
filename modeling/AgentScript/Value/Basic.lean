import AgentScript.Decimal.Binary

set_option autoImplicit false

/-! # Values

What a name of a script can stand for. Commands mostly deal in text; structured values come out of
sandboxes and out of structured text. -/

namespace AgentScript

/-- A value. Dictionaries keep their entries in the order of first insertion. -/
inductive Value where
  | null
  | bool (b : Bool)
  | int (n : Int)
  | float (x : Float)
  | str (text : String)
  | bytes (content : List UInt8)
  | list (items : List Value)
  | tuple (items : List Value)
  | dict (entries : List (Value × Value))
deriving Inhabited

namespace Value

/-- Whether a value counts as something: not null, not false, not zero and not empty. -/
def isTruthy : Value → Bool
  | .null => false
  | .bool b => b
  | .int n => n != 0
  | .float x => x != 0.0
  | .str text => text != ""
  | .bytes content => !content.isEmpty
  | .list items | .tuple items => !items.isEmpty
  | .dict entries => !entries.isEmpty

/-! ## Keys

Two keys of a dictionary are the same if they are equal as values; truth values and numbers of both
kinds compare by their size. -/

/-- The number that a value is, if it is one. -/
def number? : Value → Option (Int ⊕ Float)
  | .bool b => some (.inl (if b then 1 else 0))
  | .int n => some (.inl n)
  | .float x => some (.inr x)
  | _ => none

/-- Whether two numbers are equal. -/
def sameNumber : Int ⊕ Float → Int ⊕ Float → Bool
  | .inl m, .inl n => m == n
  | .inl m, .inr x | .inr x, .inl m => Decimal.toInt? x == some m
  | .inr x, .inr y => x == y

mutual

/-- Whether two keys are the same. -/
def sameKey : Value → Value → Bool
  | .null, .null => true
  | .str a, .str b => a == b
  | .bytes a, .bytes b => a == b
  | .tuple a, .tuple b => sameKeys a b
  | a, b =>
    match a.number?, b.number? with
    | some m, some n => sameNumber m n
    | _, _ => false

/-- Whether two lists hold the same keys. -/
def sameKeys : List Value → List Value → Bool
  | [], [] => true
  | a :: as, b :: bs => sameKey a b && sameKeys as bs
  | _, _ => false

end

/-- The entries with `key` standing for `value`; a key that is there already keeps its place and
    its form. -/
def putEntry (key value : Value) : List (Value × Value) → List (Value × Value)
  | [] => [(key, value)]
  | (k, old) :: rest =>
    if sameKey k key then (k, value) :: rest else (k, old) :: putEntry key value rest

/-- The dictionary that a list of entries makes. -/
def dictOf (entries : List (Value × Value)) : Value :=
  .dict (entries.foldl (fun done e => putEntry e.1 e.2 done) [])

/-- The value that the text `name` stands for in a dictionary. -/
def valueAt? (name : String) : List (Value × Value) → Option Value
  | [] => none
  | (.str key, value) :: rest => if key = name then some value else valueAt? name rest
  | _ :: rest => valueAt? name rest

end Value

end AgentScript
