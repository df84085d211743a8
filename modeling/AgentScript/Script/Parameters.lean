import AgentScript.Bindings
import AgentScript.Text.Search
import AgentScript.Text.Word

set_option autoImplicit false

/-! # Parameters

Arguments may be named, `name="value"` or `name="""value"""`. The triple-quoted parameters are taken
out of the text first; a value of theirs ends with the last three quotes of a run. What remains is
searched for plainly quoted ones, which never replace a triple-quoted one. An argument of its own
may be quoted either way. -/

namespace AgentScript.Script

/-- The quotes around a value that may hold quotes itself. -/
def tripleQuote : List Char := ['"', '"', '"']

/-- The value up to the three quotes that are followed by no further one, and the rest after
    them. -/
def tripleQuotedValue : List Char → Option (List Char × List Char)
  | [] => none
  | c :: rest =>
    match Text.matchText tripleQuote (c :: rest) with
    | some after =>
      if after.head? = some '"' then
        (tripleQuotedValue rest).map fun (value, after) => (c :: value, after)
      else some ([], after)
    | none => (tripleQuotedValue rest).map fun (value, after) => (c :: value, after)

/-- The value up to the next quote, and the rest after it. -/
def quotedValue (s : List Char) : Option (List Char × List Char) :=
  match s.dropWhile (· != '"') with
  | _ :: after => some (s.takeWhile (· != '"'), after)
  | [] => none

/-- A name and an equals sign with blanks on both sides, and the rest after them. -/
def readKey (s : List Char) : Option (List Char × List Char) :=
  match s.takeWhile Text.isWordChar with
  | [] => none
  | name =>
    match (s.dropWhile Text.isWordChar).dropWhile Text.isBlank with
    | '=' :: rest => some (name, rest.dropWhile Text.isBlank)
    | _ => none

/-- A parameter at the front of `s`, its value in the quotes `quote` and read by `value`. -/
def readParameter (quote : List Char) (value : List Char → Option (List Char × List Char))
    (s : List Char) : Option ((String × String) × List Char) := do
  let (name, rest) ← readKey s
  let body ← Text.matchText quote rest
  let (text, after) ← value body
  return ((String.ofList name, String.ofList text), after)

/-- The parameters found from the left by `read`, and the text that is left without them. The first
    argument bounds the length of the text. -/
def collect (read : List Char → Option ((String × String) × List Char)) :
    Nat → List Char → List (String × String) × List Char
  | 0, s => ([], s)
  | _ + 1, [] => ([], [])
  | fuel + 1, c :: rest =>
    match read (c :: rest) with
    | some (parameter, after) =>
      let (others, left) := collect read fuel after
      (parameter :: others, left)
    | none =>
      let (others, left) := collect read fuel rest
      (others, c :: left)

/-- The named parameters of a text. -/
def namedParameters (text : String) : Bindings String :=
  let s := text.toList
  let (triple, left) := collect (readParameter tripleQuote tripleQuotedValue) s.length s
  let (plain, _) := collect (readParameter ['"'] quotedValue) left.length left
  plain.foldl (fun found p => if found.contains p.1 then found else found.put p.1 p.2)
    (Bindings.ofList triple)

/-! ## Positional arguments -/

/-- What stands between `quote` at both ends of `s`, if the two do not overlap. -/
def between? (quote s : List Char) : Option (List Char) :=
  if 2 * quote.length ≤ s.length && quote.isPrefixOf s && quote.isSuffixOf s then
    some ((s.drop quote.length).take (s.length - 2 * quote.length))
  else none

/-- An argument without the blanks around it and without the quotes around what remains. -/
def stripQuotes (text : String) : String :=
  let s := Text.stripChars text.toList
  String.ofList (((between? tripleQuote s).or (between? ['"'] s)).getD s)

end AgentScript.Script
