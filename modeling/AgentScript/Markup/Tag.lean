import AgentScript.Text.Blank
import AgentScript.Text.Search

set_option autoImplicit false

/-! # Tags and other markup

What an angle bracket or an ampersand begins in a text: a tag, a comment, a declaration, an
instruction, an entity, or nothing. Each is read with the text that it takes up. Some of them must
come to an end somewhere in the text; where they do not, nothing can be read. -/

namespace AgentScript.Markup

/-- The mark around code. -/
def backtick : Char := Char.ofNat 0x60

/-- The text without the blanks in front. -/
def dropBlanks (s : List Char) : List Char :=
  s.dropWhile Text.isBlank

/-! ## Attributes -/

/-- The text after the blanks in front and the slashes among them, up to a slash that ends a tag. -/
def dropSpacing : List Char → List Char
  | [] => []
  | '/' :: '>' :: rest => '/' :: '>' :: rest
  | c :: rest => if c == '/' || Text.isBlank c then dropSpacing rest else c :: rest

/-- The text after the commas in front and the blanks before each. -/
def dropCommas : Nat → List Char → List Char
  | 0, s => s
  | fuel + 1, s =>
    match dropBlanks s with
    | ',' :: rest => dropCommas fuel rest
    | _ => s

/-- Whether `c` can stand in the bare value of an attribute. -/
def isBareValueChar (c : Char) : Bool :=
  !(c == '>' || c == backtick || Text.isBlank c)

/-- The text after an attribute, and whether that ends in a bare value. -/
structure AfterAttribute where
  rest : List Char
  isBare : Bool

/-- The text after a bare value. -/
def afterBareValue (s : List Char) : AfterAttribute :=
  let rest := s.dropWhile isBareValueChar
  { rest := rest, isBare := rest.length < s.length }

/-- The text after the equals signs and the value of an attribute. A value in quotes must be closed;
    where it is not, the attribute has none, or begins with the last of several equals signs. -/
def afterValue? (s : List Char) : Option AfterAttribute :=
  let signed := dropBlanks s
  let signs := signed.takeWhile (· == '=')
  let spaced := signed.drop signs.length
  let blanks := spaced.takeWhile Text.isBlank
  match signs, spaced.drop blanks.length with
  | [], _ => none
  | _, [] => some ⟨[], false⟩
  | _ :: more, c :: rest =>
    if c == '"' || c == '\x27' then
      match rest.dropWhile (· != c), blanks.getLast? with
      | _ :: after, _ => some ⟨after, false⟩
      | [], some blank => some ⟨blank :: c :: rest, false⟩
      | [], none => if more.isEmpty then none else some (afterBareValue ('=' :: c :: rest))
    else some (afterBareValue (c :: rest))

/-- The text after the attributes of a tag; `before` is the character before them. An attribute
    follows a blank, a slash or a quote. -/
def afterAttributes : Nat → Bool → Char → List Char → AfterAttribute
  | 0, isBare, _, s => ⟨s, isBare⟩
  | _, isBare, _, [] => ⟨[], isBare⟩
  | fuel + 1, isBare, before, c :: rest =>
    let follows := Text.isBlank before || "/\"'".toList.contains before
    if follows && c != '/' && isBareValueChar c then
      let named := rest.dropWhile fun c => !(Text.isBlank c || "/=>".toList.contains c)
      let (valued, endsBare) := match afterValue? named with
        | some value => (dropCommas value.rest.length value.rest, value.isBare)
        | none => (named, false)
      let after := dropSpacing valued
      let read := (c :: rest).take (rest.length + 1 - after.length)
      let isBare := endsBare && after.length == valued.length && read.getLast? != some ','
      afterAttributes fuel isBare (read.getLast?.getD c) after
    else ⟨c :: rest, isBare⟩

/-! ## Tags -/

/-- Whether `c` ends the name of an element. -/
def endsTagName (c : Char) : Bool :=
  "\t\n\r\x0c />\x00".toList.contains c

/-- An opening tag: the element's name, whether the tag closes the element at once, and what follows
    the tag. -/
structure OpeningTag where
  name : List Char
  closed : Bool
  rest : List Char

/-- The opening tag whose name a text begins with. -/
def openingTag? (s : List Char) : Option OpeningTag :=
  let name := s.takeWhile fun c => !(endsTagName c || c == backtick)
  let spaced := (s.drop name.length).dropWhile fun c => c == '/' || Text.isBlank c
  let before := (s.take (s.length - spaced.length)).getLast?.getD '<'
  let attributes := afterAttributes s.length false before spaced
  let tag (rest : List Char) : OpeningTag :=
    let closed := "/>".toList.isSuffixOf (s.take (s.length - rest.length))
    { name := name.map Char.toLower, closed := closed && !attributes.isBare, rest := rest }
  match dropBlanks attributes.rest with
  | '>' :: rest | '/' :: '>' :: rest => some (tag rest)
  | _ => none

/-- The name in a closing tag, given what follows the slash. -/
def closingName? (s : List Char) : Option (List Char) :=
  let spaced := dropBlanks s
  let name := spaced.takeWhile fun c => c.isAlphanum || "-.:_".toList.contains c
  if spaced.head?.any Char.isAlpha && (dropBlanks (spaced.drop name.length)).head? == some '>' then
    some (name.map Char.toLower)
  else if s.head?.any Char.isAlpha then
    some ((s.takeWhile fun c => !endsTagName c).map Char.toLower)
  else none

/-! ## All kinds of markup -/

/-- What a text begins with. -/
inductive MarkupItem where
  | opening (name : List Char) (closed : Bool)
  | closing (name : List Char)
  /-- A comment, a declaration, an instruction or an entity, the way it is written out, and whether
      it stands apart from the text around it. -/
  | other (text : List Char) (apart : Bool)
  /-- Text without a meaning of its own. -/
  | plain

/-- An item and what follows it. -/
abbrev ItemBefore := MarkupItem × List Char

/-- The end of a comment. -/
def matchCommentEnd : Text.Matcher := fun s =>
  (Text.matchText "--".toList s).bind fun s => Text.matchText ['>'] (dropBlanks s)

/-- The end of a section of plain characters. -/
def matchSectionEnd : Text.Matcher := fun s =>
  (Text.matchText [']'] s).bind fun s =>
    (Text.matchText [']'] (dropBlanks s)).bind fun s => Text.matchText ['>'] (dropBlanks s)

/-- An item from an opening up to an ending, written out with a plain ending. -/
def itemUpTo? (opening ending : String) (apart : Bool) (isEnd : Text.Matcher) (s : List Char) :
    Option ItemBefore :=
  (Text.splitAtMatch isEnd s).map fun (body, rest) =>
    (.other (opening.toList ++ body ++ ending.toList) apart, rest)

/-- The declaration after an angle bracket and an exclamation mark. -/
def declaration? (s : List Char) : Option ItemBefore :=
  let apart := (s.take 7).map Char.toLower == "doctype".toList
  if "[CDATA[".toList.isPrefixOf s then itemUpTo? "<!" "]]>" true matchSectionEnd s
  else if s.head? == some '[' && !s.contains '>' then some (.plain, '!' :: s)
  else itemUpTo? "<!" ">" apart (Text.matchText ['>']) s

/-- The entity after an ampersand and a hash, written out with a semicolon. -/
def numericEntity? (s : List Char) : Option ItemBefore :=
  let isHex (c : Char) : Bool := c.isDigit || ('a' ≤ c.toLower && c.toLower ≤ 'f')
  let (letter, isPart) : List Char × (Char → Bool) := match s with
    | 'x' :: _ | 'X' :: _ => (s.take 1, isHex)
    | _ => ([], Char.isDigit)
  let digits := (s.drop letter.length).takeWhile isPart
  let after := s.drop (letter.length + digits.length)
  if digits.isEmpty || after.isEmpty || after.head?.any isHex then none
  else
    some (.other ('&' :: '#' :: letter ++ digits ++ [';']) false,
      if after.head? == some ';' then after.drop 1 else after)

/-- The entity after an ampersand, or the ampersand alone. -/
def namedEntity (s : List Char) : ItemBefore :=
  let name := s.takeWhile fun c => c.isAlphanum || c == '-' || c == '.'
  match name.head?.any Char.isAlpha, s.drop name.length with
  | true, ';' :: rest => (.other ('&' :: name ++ [';']) false, rest)
  | _, _ => (.plain, s)

/-- The item after an angle bracket. Instructions and declarations are read at the start of a line
    only. -/
def bracketItem? (atStart : Bool) (s : List Char) : Option ItemBefore :=
  match s with
  | '/' :: '>' :: rest => some (.plain, rest)
  | '/' :: rest =>
    let after := (rest.dropWhile (· != '>')).drop 1
    if !rest.contains '>' then none
    else
      match closingName? rest with
      | some name => some (.closing name, after)
      | none => some (.other ('<' :: s.take (s.length - after.length)) false, after)
  | '!' :: '-' :: '-' :: rest => itemUpTo? "<!--" "-->" true matchCommentEnd rest
  | '?' :: rest =>
    if atStart then itemUpTo? "<?" "?>" true (Text.matchText "?>".toList) rest
    else some (.plain, rest)
  | '!' :: rest => if atStart then declaration? rest else some (.plain, rest)
  | _ =>
    match if s.head?.any Char.isAlpha then openingTag? s else none with
    | some tag => some (.opening tag.name tag.closed, tag.rest)
    | none => some (.plain, s)

/-- The item that a text begins with, if it ends in the text. -/
def markupItem? (atStart : Bool) : List Char → Option ItemBefore
  | '<' :: rest => bracketItem? atStart rest
  | '&' :: '#' :: rest => numericEntity? rest
  | '&' :: rest => some (namedEntity rest)
  | s => some (.plain, s.drop 1)

end AgentScript.Markup
