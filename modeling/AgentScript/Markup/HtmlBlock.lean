import AgentScript.Markup.Line
import AgentScript.Markup.Tag

set_option autoImplicit false

/-! # Blocks of HTML

An element that stands apart from text, and that begins at the start of a line, is a block with all
that is in it: it becomes an inset. So do comments, declarations, instructions and rules at the
start of a line. What follows a block on its line may begin the next block, and the tags that close
an element at once, the comments and the entities there are held back for it. Everything else stays
in the text. -/

namespace AgentScript.Markup

/-- The elements that stand apart from the text around them. -/
def apartElements : List String :=
  ["address", "article", "aside", "blockquote", "body", "canvas", "center", "colgroup", "dd",
   "details", "div", "dl", "dt", "fieldset", "figcaption", "figure", "footer", "form", "group",
   "h1", "h2", "h3", "h4", "h5", "h6", "header", "hgroup", "hr", "html", "iframe", "legend", "li",
   "main", "map", "math", "menu", "nav", "noscript", "object", "ol", "option", "output", "p",
   "pre", "progress", "script", "section", "style", "summary", "table", "tbody", "td", "textarea",
   "tfoot", "th", "thead", "tr", "ul", "video"]

/-- Whether an element stands apart from the text around it. -/
def isApart (name : List Char) : Bool :=
  apartElements.contains (String.ofList (name.map Char.toLower))

/-- The elements whose content is text without markup. -/
def isVerbatimElement (name : List Char) : Bool :=
  ["script", "style"].contains (String.ofList name)

/-- Where the reading of HTML in a text has come to. -/
structure HtmlReading where
  /-- The text outside of blocks, last character first. -/
  outside : List Char := []
  /-- The markup of the next block, last character first. -/
  held : List Char := []
  /-- The elements that are open in the block being read, innermost first. -/
  opened : List (List Char) := []
  /-- Whether a block has ended in this line. -/
  afterBlock : Bool := false
  /-- What has been read of the line, last character first. -/
  line : List Char := []
  insets : Insets := {}

namespace HtmlReading

/-- Whether nothing but up to three blanks stands in the line so far. -/
def atLineStart (r : HtmlReading) : Bool :=
  r.line.length < indentWidth && isAllBlank r.line

/-- Whether a block is being read. -/
def inBlock (r : HtmlReading) : Bool :=
  !r.opened.isEmpty

/-- Go past some text. -/
def pass (source : List Char) (r : HtmlReading) : HtmlReading :=
  let lastLine := source.reverse.takeWhile (· != '\n')
  { r with line := if source.contains '\n' then lastLine else lastLine ++ r.line }

/-- Add text to the block being read, or to the text outside. -/
def write (s : List Char) (r : HtmlReading) : HtmlReading :=
  if r.inBlock then { r with held := s.reverse ++ r.held }
  else { r with outside := s.reverse ++ r.outside }

/-- Read text without a meaning of its own. -/
def readPlain (s : List Char) (r : HtmlReading) : HtmlReading :=
  { r.write s with afterBlock := r.afterBlock && !s.contains '\n' }

/-- Keep markup as an inset; its mark is followed by a blank line. -/
def keep (markup : List Char) (r : HtmlReading) : HtmlReading :=
  let (mark, insets) := Insets.keep markup r.insets
  { r with outside := '\n' :: '\n' :: mark.reverse ++ r.outside, insets := insets }

/-- Whether the rest of a line and the line after it are blank. -/
def isBlankAhead (s : List Char) : Bool :=
  match dropSpaces s with
  | '\n' :: rest => (dropSpaces rest).head? == some '\n'
  | _ => false

/-- Read an opening tag. -/
def openElement (name source : List Char) (r : HtmlReading) : HtmlReading :=
  let begins := isApart name && (r.afterBlock || (r.atLineStart && !r.inBlock))
  let r := if begins then { r with outside := '\n' :: r.outside } else r
  if begins || r.inBlock then
    { r with opened := name :: r.opened, held := source.reverse ++ r.held }
  else r.write source

/-- Read a closing tag. It closes the elements that are open inside its own, and the block with the
    last of them. A blank line after the block belongs to it. -/
def closeElement (name source rest : List Char) (r : HtmlReading) : HtmlReading :=
  if r.inBlock then
    let inner := r.opened.takeWhile (· != name)
    let opened :=
      if r.opened.contains name then r.opened.drop (inner.length + 1) else r.opened
    let held := source.reverse ++ r.held
    if opened.isEmpty then
      let blank := isBlankAhead rest
      let markup := held.reverse ++ (if blank then ['\n'] else [])
      { r with opened := [], held := [], afterBlock := r.afterBlock || !blank }.keep markup
    else { r with opened := opened, held := held }
  else r.write source

/-- Read markup without content in front of `rest`. -/
def readOther (s : List Char) (apart : Bool) (rest : List Char) (r : HtmlReading) : HtmlReading :=
  if r.inBlock || r.afterBlock then { r with held := s.reverse ++ r.held }
  else if r.atLineStart && apart then
    let blank := isBlankAhead rest
    let outside := match r.outside with
      | '\n' :: '\n' :: before => '\n' :: '\n' :: before
      | '\n' :: before => '\n' :: '\n' :: before
      | outside => outside
    { r with outside := outside, afterBlock := !blank }.keep
      (s ++ if blank then ['\n'] else [])
  else r.write s

/-- Read an item in front of `rest` in the text `s`. -/
def readItem (item : MarkupItem) (s rest : List Char) (r : HtmlReading) : HtmlReading :=
  let source := s.take (s.length - rest.length)
  let read := match item with
    | .plain => r.readPlain source
    | .closing name => r.closeElement name source rest
    | .other text apart => r.readOther text apart (s.drop text.length)
    | .opening name closed =>
      if closed || name == "hr".toList then r.readOther source (isApart name) rest
      else r.openElement name source
  read.pass source

/-- The closing tag of a verbatim element. -/
def matchClosing (name : List Char) : Text.Matcher := fun s =>
  (Text.matchText "</".toList s).bind fun s =>
    let s := dropBlanks s
    if (s.take name.length).map Char.toLower == name then
      Text.matchText ['>'] (dropBlanks (s.drop name.length))
    else none

/-- The verbatim element that an item opens in a block. -/
def verbatimAfter? (r : HtmlReading) (item : MarkupItem) : Option (List Char) :=
  match item with
  | .opening name false => if isVerbatimElement name && r.inBlock then some name else none
  | _ => none

/-- How much of a text is plain because the item at its front does not end: up to the next closing
    bracket, or else up to the next opening one. -/
def plainUpTo (s : List Char) : List Char :=
  let tail := s.drop 1
  if tail.contains '>' then s.take 1 ++ tail.takeWhile (· != '>') ++ ['>']
  else if tail.contains '<' then s.take 1 ++ tail.takeWhile (· != '<')
  else s.take 1

/-- Read a text, in a verbatim element or not. The first item that does not end is tried `again`;
    after that such an item is plain, and a number that does not end leaves the rest without items.
    -/
def readText : Nat → (again : Bool) → Option (List Char) → HtmlReading → List Char → HtmlReading
  | 0, _, _, r, _ => r
  | _, _, _, r, [] => r
  | fuel + 1, again, some name, r, s =>
    match Text.splitAtMatch (matchClosing name) s with
    | some (content, after) =>
      let r := if content.isEmpty then r else (r.readPlain content).pass content
      readText fuel again none (r.readItem (.closing name) (s.drop content.length) after) after
    | none => r.readPlain s
  | fuel + 1, again, none, r, c :: rest =>
    let s := c :: rest
    let onwards (again : Bool) (plain : List Char) : HtmlReading :=
      readText fuel again none ((r.readPlain plain).pass plain) (s.drop plain.length)
    let plain := s.takeWhile fun c => c != '<' && c != '&'
    if !plain.isEmpty then onwards again plain
    else
      match markupItem? (r.atLineStart || r.afterBlock) s with
      | some (item, after) =>
        let read := r.readItem item s after
        readText fuel again (read.verbatimAfter? item) read after
      | none =>
        if c == '&' then
          if again && rest.contains ';' then onwards false (s.take 2)
          else r.readPlain s
        else if again then readText fuel false none r s
        else onwards false (plainUpTo s)

/-- The text of a document with marks in place of the blocks of HTML. What is left of a block that
    does not end is one, too. -/
def ofText (insets : Insets) (s : List Char) : List Char × Insets :=
  let r := readText (s.length + 2) true none { insets := insets } s
  if r.held.isEmpty then (r.outside.reverse, r.insets)
  else
    let (mark, insets) := Insets.keep r.held.reverse r.insets
    (r.outside.reverse ++ mark, insets)

end HtmlReading

/-- Keep the blocks of HTML in some lines aside. -/
def keepHtml (lines : List Line) : StateM Insets (List Line) := fun insets =>
  let (text, insets) := HtmlReading.ofText insets (joinLines lines)
  (Text.splitOnChar '\n' text, insets)

end AgentScript.Markup
