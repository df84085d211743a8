import AgentScript.Markup.Line
import AgentScript.Markup.Tag
import AgentScript.Text.Markup
import AgentScript.Text.Search
import AgentScript.Text.Word

set_option autoImplicit false

/-! # Fenced code

Two lines of at least three backticks or tildes set the lines between them apart as code. After the
opening fence stands what is said about the code: its language, or attributes in braces, of which
the first class is the language, the other classes and the identifier belong to the whole block,
and all others are without effect. A fence whose attributes cannot be read opens nothing, and
neither does one that no equal fence closes. -/

namespace AgentScript.Markup

/-! ## Markup of code -/

/-- Whether the text after an ampersand completes an entity. -/
def completesEntity (s : List Char) : Bool :=
  let ended (isPart : Char → Bool) (s : List Char) : Bool :=
    !(s.takeWhile isPart).isEmpty && (s.dropWhile isPart).head? == some ';'
  let isHex (c : Char) : Bool := c.isDigit || ('a' ≤ c.toLower && c.toLower ≤ 'f')
  match s with
  | '#' :: 'x' :: rest | '#' :: 'X' :: rest => ended isHex rest
  | '#' :: rest => ended Char.isDigit rest
  | s => ended Char.isAlphanum s

/-- The text with its characters escaped, entities aside. -/
def escapeText : List Char → List Char
  | [] => []
  | '&' :: rest =>
    (if completesEntity rest then ['&'] else "&amp;".toList) ++ escapeText rest
  | c :: rest => Text.escapeMarkupChar c ++ escapeText rest

/-- The text with its quotation marks escaped. -/
def escapeQuotes (s : List Char) : List Char :=
  s.flatMap fun c => if c == '"' then "&quot;".toList else [c]

/-- The text as the value of an attribute. -/
def attributeText (name : String) (value : List Char) : List Char :=
  ' ' :: name.toList ++ '=' :: '"' :: escapeQuotes (escapeText value) ++ ['"']

/-- The text with all its characters escaped, entities included. -/
def escapeCode (s : List Char) : List Char :=
  s.flatMap Text.escapeMarkupChar

/-! ## Attributes -/

/-- What is said about fenced code. -/
structure FenceInfo where
  identifier : List Char := []
  /-- The language and further classes. -/
  classes : List (List Char) := []

/-- Take up an attribute. -/
def FenceInfo.withAttribute (info : FenceInfo) (name value : List Char) : FenceInfo :=
  if name == "id".toList then { info with identifier := value }
  else if name == ['.'] then { info with classes := info.classes ++ [value] }
  else info

/-- Take up a word: a class behind a dot, an identifier behind a hash, or an attribute that is its
    own value. -/
def FenceInfo.withWord (info : FenceInfo) : List Char → FenceInfo
  | '.' :: name => info.withAttribute ['.'] name
  | '#' :: name => info.withAttribute "id".toList name
  | word => info.withAttribute word word

/-- The value in quotes at the front of a text, without these and others beside them, and what
    follows it. -/
def quotedValue? : List Char → Option (List Char × List Char)
  | [] => none
  | quote :: rest =>
    let value := rest.takeWhile (· != quote)
    match quote == '"' || quote == '\x27', rest.drop value.length with
    | true, _ :: after => some (value, after)
    | _, _ => none

/-- Read attributes; a closing brace among them makes them unreadable, and other text that is none
    ends them. -/
def readAttributes : Nat → FenceInfo → List Char → Option FenceInfo
  | 0, info, _ => some info
  | _, info, [] => some info
  | fuel + 1, info, c :: rest =>
    let isPart (c : Char) : Bool := !" =\x7d".toList.contains c
    let name := (c :: rest).takeWhile isPart
    let after := (c :: rest).drop name.length
    if c == ' ' then readAttributes fuel info rest
    else if name.isEmpty then if (c :: rest).contains '\x7d' then none else some info
    else
      match after with
      | '=' :: valued =>
        match quotedValue? valued, valued.takeWhile isPart with
        | some (value, after), _ => readAttributes fuel (info.withAttribute name value) after
        | none, [] => readAttributes fuel (info.withWord name) after
        | none, value =>
          readAttributes fuel (info.withAttribute name value) (valued.drop value.length)
      | _ => readAttributes fuel (info.withWord name) after

/-! ## Fences -/

/-- Whether a text is nothing or the lines to stress, in quotes. -/
def isStress (s : List Char) : Bool :=
  match Text.matchText "hl_lines=".toList (dropSpacesRight s) with
  | some (quote :: rest) => (quote == '"' || quote == '\x27') && rest.getLast? == some quote
  | some [] => false
  | none => s.all (· == ' ')

/-- The language at the front of a text: as many characters as leave nothing after them but the
    lines to stress. -/
def language? (s : List Char) : Option (List Char) :=
  let longest := s.takeWhile fun c => Text.isWordChar c || "#.+-".toList.contains c
  (List.range (longest.length + 1)).reverse.findSome? fun n =>
    if isStress (dropSpaces (s.drop n)) then some (s.take n) else none

/-- The fence that a line opens, and what it says about the code. -/
def fence? (line : Line) : Option (Line × FenceInfo) :=
  match line with
  | [] => none
  | mark :: _ =>
    let fence := line.takeWhile (· == mark)
    let said := dropSpaces (line.drop fence.length)
    let named (s : List Char) : Option FenceInfo := (language? s).map fun language =>
      { classes := if language.isEmpty then [] else [language] }
    if (mark == '~' || mark == backtick) && 3 ≤ fence.length then
      let info? := match said with
        | '\x7b' :: attributes =>
          if attributes.getLast? == some '\x7d' then
            readAttributes attributes.length {} attributes.dropLast
          else none
        | '.' :: rest => (named rest).or (named said)
        | _ => named said
      info?.map fun info => (fence, info)
    else none

/-- The lines before and after the one that closes a fence. -/
def splitAtFence (fence : Line) : List Line → Option (List Line × List Line)
  | [] => none
  | line :: lines =>
    if (line.take fence.length == fence) && (line.drop fence.length).all (· == ' ') then
      some ([], lines)
    else (splitAtFence fence lines).map fun (code, after) => (line :: code, after)

/-- The markup of fenced code. -/
def fencedCode (info : FenceInfo) (code : List Line) : List Char :=
  let written (name : String) (value : List Char) : List Char :=
    if value.isEmpty then [] else attributeText name value
  let language := (info.classes.head?).getD []
  let classes := List.intercalate [' '] (info.classes.drop 1)
  let named := if language.isEmpty then [] else "language-".toList ++ language
  "<pre".toList ++ written "id" info.identifier ++
    (if info.classes.length ≤ 1 then [] else attributeText "class" classes) ++
    "><code".toList ++ written "class" named ++
    '>' :: escapeQuotes (escapeCode (code.flatMap fun line => line ++ ['\n'])) ++
    "</code></pre>".toList

/-- Keep the fenced code of some lines aside; the marks for it stand between blank lines. -/
def keepFences : Nat → List Line → StateM Insets (List Line)
  | 0, lines => return lines
  | _, [] => return []
  | fuel + 1, line :: lines => do
    let fenced? := (fence? line).bind fun (fence, info) =>
      (splitAtFence fence lines).map fun (code, after) => (fencedCode info code, after)
    match fenced? with
    | some (markup, after) =>
      let mark ← Insets.keep markup
      return [] :: mark :: [] :: (← keepFences fuel after)
    | none => return line :: (← keepFences fuel lines)

end AgentScript.Markup
