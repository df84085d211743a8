import AgentScript.Markup.Line
import AgentScript.Text.Lowercase

set_option autoImplicit false

/-! # References

A definition gives a name to a target: the name in brackets, a colon, the target, and a title in
quotes or parentheses, each of the last two on a line of its own if need be. Links and images
anywhere in the document refer to targets by these names, in lower or upper case. The last
definition of a name counts. -/

namespace AgentScript.Markup

/-- What a name refers to. -/
structure Reference where
  target : List Char
  title : Option (List Char)

/-- The defined names, the last ones first. -/
abbrev References := List (List Char × Reference)

/-- The form in which names are compared. -/
def referenceName (s : List Char) : List Char :=
  (Text.lower (String.ofList s)).toList

/-- What a name refers to. -/
def References.get? (references : References) (name : List Char) : Option Reference :=
  references.lookup name

/-! ## Definitions -/

/-- The text at the end of a line or of all text. -/
def atLineEnd (s : List Char) : Bool :=
  s.isEmpty || s.head? == some '\n'

/-- The title that fills the rest of a line, and the text from the line's end on. -/
def titleLine? : List Char → Option (List Char × List Char)
  | [] => none
  | opening :: s =>
    let line := dropSpacesRight (s.takeWhile (· != '\n'))
    let closing := if opening == '(' then ')' else opening
    if "(\"'".toList.contains opening && line.getLast? == some closing then
      some (line.dropLast, s.dropWhile (· != '\n'))
    else none

/-- The title after a target, on the same line or on the next one, and the text from the line's end
    on; there may be none. -/
def definedTitle? (s : List Char) : Option (Option (List Char) × List Char) :=
  let onLine (s : List Char) : Option (Option (List Char) × List Char) :=
    match titleLine? s with
    | some (title, rest) => some (if title.isEmpty then none else some title, rest)
    | none => if atLineEnd s then some (none, s) else none
  let s := dropSpaces s
  match s with
  | '\n' :: next => (onLine (dropSpaces next)).or (onLine s)
  | s => onLine s

/-- The definition that a line begins, and the text from its end on. The target ends at the first
    blank, or before where only so a title follows. -/
def definition? (s : List Char) : Option ((List Char × Reference) × List Char) :=
  match (shallow? s).getD [] with
  | '[' :: s =>
    let name := s.takeWhile fun c => c != '[' && c != ']'
    match s.drop name.length with
    | ']' :: ':' :: s =>
      let s := match dropSpaces s with
        | '\n' :: next => dropSpaces next
        | s => s
      let word := s.takeWhile fun c => !Text.isBlank c
      (List.range word.length).reverse.findSome? fun n =>
        (definedTitle? (s.drop (n + 1))).map fun (title, rest) =>
          let target := (s.take (n + 1)).dropWhile (· == '<')
          let target := (target.reverse.dropWhile (· == '>')).reverse
          ((referenceName (Text.stripChars name), { target := target, title := title }), rest)
    | _ => none
  | _ => none

/-- The first definition in a block, with the lines before and after it. -/
def firstDefinition? : List Line → Option (List Line × (List Char × Reference) × List Line)
  | [] => none
  | line :: lines =>
    match definition? (joinLines (line :: lines)) with
    | some (entry, rest) =>
      some ([], entry, Text.splitOnChar '\n' (rest.dropWhile (· == '\n')))
    | none =>
      (firstDefinition? lines).map fun (before, entry, after) => (line :: before, entry, after)

end AgentScript.Markup
