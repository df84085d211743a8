import AgentScript.Markup.Reference
import AgentScript.Markup.Table
import AgentScript.Text.Digit

set_option autoImplicit false

/-! # Blocks

A marked-up text is a sequence of blocks: groups of lines between blank ones. What a block becomes
depends on its first lines, on what holds it and on the block before it, which it may continue:
lists, quotations and indented code go on after blank lines. Definitions of references are taken
out of the text on the way. -/

namespace AgentScript.Markup

/-- A part of a marked-up text. -/
inductive Block where
  /-- The text of a list item that is not set apart as a paragraph. -/
  | text (content : List Char)
  | paragraph (content : List Char)
  | heading (level : Nat) (content : List Char)
  | rule
  | code (lines : List Line)
  | table (content : Table)
  | quote (content : List Block)
  | list (ordered : Bool) (content : List Block)
  | item (content : List Block)

/-! ## The beginnings of lines -/

/-- What is left of a line after the mark of a list item; the answer tells whether the mark is a
    number. -/
def itemText? (line : Line) : Option (Bool × Line) := do
  let line ← shallow? line
  let number := line.takeWhile fun c => (Text.decimalValue? c).isSome
  let (ordered, rest) ← match number, line.drop number.length with
    | _ :: _, '.' :: rest => some (true, rest)
    | [], c :: rest => if "*+-".toList.contains c then some (false, rest) else none
    | _, _ => none
  if rest.head? == some ' ' then some (ordered, dropSpaces rest) else none

/-- Whether a line is the first of a nested list item. -/
def isNestedItem (line : Line) : Bool :=
  isIndented line && (itemText? (line.drop indentWidth)).isSome

/-- What is left of a line after the mark of a quotation. -/
def quotedText? (line : Line) : Option Line :=
  match shallow? line with
  | some ('>' :: ' ' :: rest) | some ('>' :: rest) => some rest
  | _ => none

/-- The line of a quotation without the mark; a line that has none belongs to it as it is. -/
def unquote (line : Line) : Line :=
  if Text.stripChars line == ['>'] then [] else (quotedText? line).getD line

/-- A heading without the marks at its end. A backslash protects a mark; it cannot stand at the
    end. -/
def dropClosingMarks? (s : List Char) : Option (List Char) :=
  let marks := s.reverse.takeWhile (· == '#')
  let content := s.take (s.length - marks.length)
  let backslashes := content.reverse.takeWhile (· == '\\')
  if backslashes.length % 2 == 0 then some content
  else if marks.isEmpty then none
  else some (content ++ ['#'])

/-- The heading that a line is. -/
def heading? (line : Line) : Option Block :=
  match min 6 (line.takeWhile (· == '#')).length with
  | 0 => none
  | level =>
    (dropClosingMarks? (line.drop level)).map fun content =>
      .heading level (Text.stripChars content)

/-- The level of the heading that an underline makes of the line before it. -/
def underlineLevel? (line : Line) : Option Nat :=
  let marks := dropSpacesRight line
  if !marks.isEmpty && marks.all fun c => c == '=' || c == '-' then
    some (if marks.head? == some '=' then 1 else 2)
  else none

/-- Whether a line is at least three marks of a kind, with two spaces between them at most. -/
def isRule (line : Line) : Bool :=
  match (shallow? line).map trimSpaces with
  | some (mark :: rest) =>
    "-_*".toList.contains mark && 2 ≤ rest.count mark &&
      rest.all (fun c => c == mark || c == ' ') &&
      !Text.occursIn "   " (String.ofList rest)
  | _ => false

/-- The lines before the first one that `f` reads, what it reads, and the lines after it. -/
def splitAtLine {α : Type} (f : Line → Option α) : List Line → Option (List Line × α × List Line)
  | [] => none
  | line :: lines =>
    match f line with
    | some a => some ([], a, lines)
    | none => (splitAtLine f lines).map fun (before, a, after) => (line :: before, a, after)

/-- The lines of an indented block that are code, without their indentation and the blanks at their
    end, and the other lines. -/
def splitCode (block : List Line) : List Line × List Line :=
  let code := block.takeWhile fun line => isIndented line || isAllBlank line
  let outdented := code.map fun line => if isIndented line then line.drop indentWidth else []
  (Text.splitOnChar '\n' (Text.dropBlanksRight (joinLines outdented)), block.drop code.length)

/-! ## Lists -/

/-- Put a line at the end of the last group. -/
def appendToLast (groups : List (List Line)) (line : Line) : List (List Line) :=
  match groups.getLast? with
  | some group => groups.dropLast ++ [group ++ [line]]
  | none => [[line]]

/-- The items of a list, in groups of lines; nested ones stay indented. -/
def itemsOf (block : List Line) : List (List Line) :=
  block.foldl (fun groups line =>
    match itemText? line with
    | some (_, text) => groups ++ [[text]]
    | none =>
      let inNested := ((groups.getLast?.bind List.head?).any isIndented)
      if isNestedItem line && !inNested then groups ++ [[line]] else appendToLast groups line) []

/-- Whether the last block is a list. -/
def endsInList (content : List Block) : Bool :=
  match content.getLast? with
  | some (.list _ _) => true
  | _ => false

/-- Set the text that begins an item apart as a paragraph. -/
def loosen : List Block → List Block
  | .text s :: rest => .paragraph s :: rest
  | content => content

/-- Set the text that ends an item apart as a paragraph, too. -/
def loosenEnds (content : List Block) : List Block :=
  match (loosen content).getLast? with
  | some (.text s) => (loosen content).dropLast ++ [.paragraph (s.dropWhile Text.isBlank)]
  | _ => loosen content

/-- How many levels the lists go down that a content ends in, at most `n`. -/
def listLevels : (n : Nat) → List Block → Nat
  | 0, _ => 0
  | n + 1, content =>
    match content.getLast? with
    | some (.list _ items) =>
      match items.getLast? with
      | some (.item inside) => listLevels n inside + 1
      | _ => 1
    | _ => 0

section Changes

variable {m : Type → Type} [Monad m]

/-- Change the content of the last block, if it is a list. -/
def changeLastList (f : List Block → m (List Block)) (content : List Block) : m (List Block) :=
  match content.getLast? with
  | some (.list ordered items) => return content.dropLast ++ [.list ordered (← f items)]
  | _ => return content

/-- Change the content of the last block, if it is an item. -/
def changeLastItem (f : List Block → m (List Block)) (content : List Block) : m (List Block) :=
  match content.getLast? with
  | some (.item inside) => return content.dropLast ++ [.item (← f inside)]
  | _ => return content

/-- Change the content of the last item, or of a new one if there is none at the end. -/
def changeItem (f : List Block → m (List Block)) (content : List Block) : m (List Block) :=
  match content.getLast? with
  | some (.item _) => changeLastItem f content
  | _ => return content ++ [.item (← f [])]

/-- Put an indented block into the last item of the list that the content ends in, or deeper, as far
    as its indentation of `further` more levels goes and there are lists. -/
def placeDeeper (placeIn : List Block → List Line → m (List Block)) (block : List Line) :
    (further level : Nat) → List Block → m (List Block)
  | 0, level =>
    changeLastList (changeItem fun item => placeIn (loosen item) (outdent level block))
  | further + 1, level =>
    changeLastList (changeItem fun item =>
      if endsInList item then placeDeeper placeIn block further (level + 1) item
      else placeIn item (outdent level block))

end Changes

/-! ## Placing blocks -/

/-- What a block is placed in. -/
inductive Holder where
  | list
  | item
  /-- A quotation or the whole text. -/
  | other
deriving DecidableEq

/-- How a block is placed. -/
inductive Setting where
  | plain
  /-- In a list whose items are not set apart. -/
  | tight
  /-- As the first item of those that are set apart. -/
  | loose
  /-- With the indentation of a list item taken off. -/
  | outdented
deriving DecidableEq

/-- A blank line belongs to the code before it. The one that divides two blocks is none of these. -/
def placeBlank (content : List Block) : List Block :=
  match content.getLast? with
  | some (.code lines) => content.dropLast ++ [.code (lines ++ [[]])]
  | _ => content

/-- Indented code goes on with the code before it, after a blank line. -/
def placeCode (content : List Block) (code : List Line) : List Block :=
  match content.getLast? with
  | some (.code lines) => content.dropLast ++ [.code (lines ++ [] :: code)]
  | _ => content ++ [.code code]

/-- Text that is nothing else: a paragraph, or a part of a tight list item. -/
def placeText (setting : Setting) (content : List Block) (block : List Line) : List Block :=
  let text := joinLines block
  let trimmed := text.dropWhile Text.isBlank
  if trimmed.isEmpty then content
  else if setting != .tight then content ++ [.paragraph trimmed]
  else
    match content, content.getLast? with
    | [], _ => [.text trimmed]
    | [.text s], _ => [.text (s ++ '\n' :: trimmed)]
    | _, some (.text s) => content.dropLast ++ [.text (s ++ '\n' :: text)]
    | _, _ => content ++ [.text ('\n' :: text)]

/-- Place lines after the blocks that are there. -/
def place : Nat → Holder → Setting → List Block → List Line → StateM References (List Block)
  | 0, _, _, content, _ => return content
  | _, _, _, content, [] => return content
  | fuel + 1, holder, setting, content, [] :: rest =>
    place fuel holder setting (placeBlank content) rest
  | fuel + 1, holder, setting, content, first :: rest => do
    let full := rest.takeWhile (!·.isEmpty)
    -- a single blank line at the end divides nothing
    let more := if rest.length == full.length + 1 then rest else full
    let after := rest.drop more.length
    let block := first :: more
    let before := place fuel holder setting content
    let continueWith (content : List Block) (left : List Line) :=
      place fuel holder setting content (if left.isEmpty then after.drop 1 else left ++ after)
    let addItems (groups : List (List Line)) (items : List Block) :
        StateM References (List Block) :=
      groups.foldlM (fun items group => do
        if group.head?.any isIndented then
          changeLastItem (place fuel .item .tight · group) items
        else return items ++ [.item (← place fuel .item .tight [] group)]) items
    let nested (content : List Block) : StateM References (List Block) :=
      let levels := leadingSpaces first / indentWidth
      if holder == .item then
        let level := if setting == .tight then 1 else 0
        let block := outdent (level + listLevels (levels - level) content) block
        if endsInList content then
          changeLastList (place fuel .list .outdented · block) content
        else place fuel .item .outdented content block
      else placeDeeper (place fuel .item .outdented) block (levels - 1) 1 content
    let listed (ordered : Bool) : StateM References (List Block) := do
      let groups := itemsOf block
      if endsInList content then
        changeLastList (fun items => do
          let items ← changeLastItem (fun item => return loosenEnds item) items
          let firstItem ← place fuel .item .loose [] (groups.head?.getD [])
          addItems (groups.drop 1) (items ++ [.item firstItem])) content
      else if holder == .list then addItems groups content
      else return content ++ [.list ordered (← addItems groups [])]
    let quoted (lines : List Line) (content : List Block) : StateM References (List Block) := do
      match content.getLast? with
      | some (.quote inside) =>
        return content.dropLast ++ [.quote (← place fuel .other .plain inside lines)]
      | _ => return content ++ [.quote (← place fuel .other .plain [] lines)]
    if isIndented first then
      if setting != .outdented && (holder == .item || endsInList content) then
        continueWith (← nested content) []
      else
        let (code, left) := splitCode block
        continueWith (placeCode content code) left
    else if let some table := tableOf? block then continueWith (content ++ [.table table]) []
    else if let some (lines, heading, left) := splitAtLine heading? block then
      let left := if setting == .loose then outdent 1 left else left
      continueWith ((← before lines) ++ [heading]) left
    else if let some level := more.head?.bind underlineLevel? then
      continueWith (content ++ [.heading level (Text.stripChars first)]) (more.drop 1)
    else if let some (lines, _, left) :=
        splitAtLine (fun line => if isRule line then some () else none) block then
      continueWith ((← before lines) ++ [.rule]) left
    else if let some (ordered, _) := itemText? first then continueWith (← listed ordered) []
    else if let some (lines, _, left) := splitAtLine quotedText? block then
      let quotation := (block.drop lines.length).take (left.length + 1)
      continueWith (← quoted (quotation.map unquote) (← before lines)) []
    else if let some (lines, entry, left) := firstDefinition? block then
      modify (entry :: ·)
      let content ← if lines.all isAllBlank then pure content else before lines
      continueWith content (if left.all isAllBlank then [] else left)
    else continueWith (placeText setting content block) []

/-- The blocks of some lines, and the references defined in them. -/
def blocksOf (lines : List Line) : List Block × References :=
  (place ((joinLines lines).length + 2) .other .plain [] lines).run []

end AgentScript.Markup
