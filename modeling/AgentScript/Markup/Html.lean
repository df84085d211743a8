import AgentScript.Markup.Block
import AgentScript.Markup.Fence
import AgentScript.Markup.HtmlBlock
import AgentScript.Markup.Passage
import AgentScript.Text.Entity

set_option autoImplicit false

/-! # Blocks as HTML

Every block is written on lines of its own. Text keeps the entities that it already holds; all other
characters with a meaning are escaped. Tags and insets are written as they are. -/

namespace AgentScript.Markup

/-- An element with its content. -/
def element (name : String) (content : List Char) : List Char :=
  '<' :: name.toList ++ '>' :: content ++ '<' :: '/' :: name.toList ++ ['>']

/-! ## Inline markup -/

/-- The characters that pieces begin with. -/
def leadingText : List Inline → List Char
  | .char c :: rest | .literal c :: rest => c :: leadingText rest
  | _ => []

/-- How a single character is written before other pieces. -/
def writeChar (c : Char) (rest : List Inline) : List Char :=
  if c == '&' && completesEntity (leadingText rest) then ['&'] else Text.escapeMarkupChar c

/-- The attribute for a title, if there is one. -/
def titleAttribute (title : Option (List Char)) : List Char :=
  title.elim [] (attributeText "title")

/-- A link to a mailbox; every character of it is an entity. -/
def writeMailbox (address : List Char) : List Char :=
  let target := ("mailto:".toList ++ address).flatMap Text.numericEntity
  "<a href=\"".toList ++ target ++ '"' :: '>' :: address.flatMap Text.namedEntity ++ "</a>".toList

/-- The pieces after a line break: blanks before the next element are left out. -/
def afterBreak (s : List Inline) : List Inline :=
  let text := s.takeWhile Inline.isText
  if text.all Inline.isBlank then s.drop text.length else s

mutual

/-- A piece before others as HTML. In a tag lines do not break, and a backslash stands before
    protected characters and other tags. -/
def writeInline (inTag : Bool) (rest : List Inline) : Inline → List Char
  | .char c => writeChar c rest
  | .literal c => if inTag then ['\\', c] else writeChar c rest
  | .tag content => if inTag then '\\' :: writeTag content else writeTag content
  | .inset markup => markup
  | .code text => element "code" (escapeCode text)
  | .lineBreak => "<br />".toList ++ if inTag then [] else ['\n']
  | .image source alternative title =>
    "<img".toList ++ attributeText "alt" alternative ++ attributeText "src" source ++
      titleAttribute title ++ " />".toList
  | .address target content =>
    "<a".toList ++ attributeText "href" target ++ '>' :: writeInlines inTag content ++ "</a>".toList
  | .mailbox address => writeMailbox address
  | .link target title content =>
    "<a".toList ++ attributeText "href" target ++ titleAttribute title ++
      '>' :: writeInlines inTag content ++ "</a>".toList
  | .strong content => element "strong" (writeInlines inTag content)
  | .emphasis content => element "em" (writeInlines inTag content)

/-- Pieces as HTML. -/
def writeInlines (inTag : Bool) : List Inline → List Char
  | [] => []
  | i :: rest => writeInline inTag rest i ++ writeInlines inTag rest

/-- The content of a tag: its own characters are written as they are. -/
def writeTag : List Inline → List Char
  | [] => []
  | .char c :: rest => c :: writeTag rest
  | i :: rest => writeInline true rest i ++ writeTag rest

end

/-- Leave the blanks after line breaks out, in pieces and in what they hold. -/
def trimBreaks : Nat → List Inline → List Inline
  | 0, s => s
  | _, [] => []
  | fuel + 1, .lineBreak :: rest => .lineBreak :: trimBreaks fuel (afterBreak rest)
  | fuel + 1, i :: rest => i.mapContent (trimBreaks fuel) :: trimBreaks fuel rest

/-- The pieces of a passage, ready to be written. -/
def piecesToWrite (r : Resources) (s : List Char) : List Inline :=
  trimBreaks s.length (inlinesOf r s)

/-- A passage as HTML. -/
def writeText (r : Resources) (s : List Char) : List Char :=
  writeInlines false (piecesToWrite r s)

/-- Whether markup is a tag of an element that stands apart, or a comment or the like. -/
def isApartMarkup : List Char → Bool
  | '<' :: rest =>
    let named := if rest.head? == some '/' then rest.drop 1 else rest
    let name := named.takeWhile fun c => c != ' ' && c != '>'
    name.head?.any "!?@%".toList.contains || isApart (name.reverse.dropWhile (· == '/')).reverse
  | _ => false

/-- A paragraph. Markup that stands apart, and is all that the paragraph has, is none. -/
def writeParagraph (r : Resources) (s : List Char) : List Char :=
  let pieces := piecesToWrite r s
  let written := writeInlines false pieces
  match pieces with
  | [.tag _] | [.inset _] => if isApartMarkup written then written else element "p" written
  | _ => element "p" written

/-! ## Blocks -/

/-- The style of an aligned cell. -/
def alignmentAttribute (a : Option Alignment) : List Char :=
  let aligned (side : String) := attributeText "style" ("text-align: " ++ side ++ ";").toList
  match a with
  | none => []
  | some .left => aligned "left"
  | some .center => aligned "center"
  | some .right => aligned "right"

/-- A row of a table. -/
def writeRow (r : Resources) (cellName : String) (columns : List (Option Alignment))
    (cells : List (List Char)) : List Char :=
  let written := (columns.zip cells).flatMap fun (column, cell) =>
    '<' :: cellName.toList ++ alignmentAttribute column ++ '>' :: writeText r cell ++
      '<' :: '/' :: cellName.toList ++ ['>', '\n']
  element "tr" ('\n' :: written) ++ ['\n']

/-- A table; without rows it has an empty one, whose cells are not aligned. -/
def writeTable (r : Resources) (t : Table) : List Char :=
  let heading := element "thead" ('\n' :: writeRow r "th" t.columns t.headings)
  let rows :=
    if t.rows.isEmpty then writeRow r "td" (t.columns.map fun _ => none) (t.columns.map fun _ => [])
    else t.rows.flatMap (writeRow r "td" t.columns)
  let body := element "tbody" ('\n' :: rows)
  element "table" ('\n' :: heading ++ '\n' :: body ++ ['\n'])

/-- The text of indented code; blank lines at its end do not belong to it. -/
def codeText (lines : List Line) : List Char :=
  Text.dropBlanksRight (joinLines lines) ++ ['\n']

/-- The line's end after a block; text that follows one begins with its own. -/
def lineEndBefore : List Block → List Char
  | .text _ :: _ => []
  | _ => ['\n']

mutual

/-- A block as HTML. -/
def writeBlock (r : Resources) : Block → List Char
  | .text content => writeText r content
  | .paragraph content => writeParagraph r content
  | .heading level content => element ("h" ++ toString level) (writeText r content)
  | .rule => "<hr />".toList
  | .code lines => element "pre" (element "code" (escapeCode (codeText lines)))
  | .table t => writeTable r t
  | .quote content => element "blockquote" (writeContent r content)
  | .list ordered content => element (if ordered then "ol" else "ul") (writeContent r content)
  | .item content => element "li" (writeContent r content)

/-- What a block holds; text at its beginning stands on the line of its tag. -/
def writeContent (r : Resources) : List Block → List Char
  | [] => []
  | .text content :: rest => writeText r content ++ writeBlocks r rest
  | block :: rest => '\n' :: writeBlock r block ++ lineEndBefore rest ++ writeBlocks r rest

/-- Blocks, each on lines of its own; only text needs no line's end. -/
def writeBlocks (r : Resources) : List Block → List Char
  | [] => []
  | .text content :: rest => writeText r content ++ writeBlocks r rest
  | block :: rest => writeBlock r block ++ lineEndBefore rest ++ writeBlocks r rest

end

end AgentScript.Markup
