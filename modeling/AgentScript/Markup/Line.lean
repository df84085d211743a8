import AgentScript.Markup.Inset
import AgentScript.Text.Blank

set_option autoImplicit false

/-! # Lines of marked-up text

A marked-up text is read line by line. A tab counts as the spaces up to the next multiple of the
indentation, and a line of spaces alone is blank, the first one excepted. Indentation is counted in
levels, and up to three spaces are none. -/

namespace AgentScript.Markup

/-- A line without its end. -/
abbrev Line := List Char

/-- Lines as one text. -/
def joinLines : List Line → List Char
  | [] => []
  | [line] => line
  | line :: lines => line ++ '\n' :: joinLines lines

/-- The text without the spaces in front. -/
def dropSpaces (s : List Char) : List Char :=
  s.dropWhile (· == ' ')

/-- The text without the spaces at its end. -/
def dropSpacesRight (s : List Char) : List Char :=
  (s.reverse.dropWhile (· == ' ')).reverse

/-- The text without the spaces at either end. -/
def trimSpaces (s : List Char) : List Char :=
  dropSpacesRight (dropSpaces s)

/-! ## Indentation -/

/-- The width of one level of indentation. -/
def indentWidth : Nat := 4

/-- How many spaces a line begins with. -/
def leadingSpaces (line : Line) : Nat :=
  (line.takeWhile (· == ' ')).length

/-- Whether a line is indented by a level at least. -/
def isIndented (line : Line) : Bool :=
  indentWidth ≤ leadingSpaces line

/-- The line without up to three spaces in front; deeper lines are left out. -/
def shallow? (line : Line) : Option Line :=
  if isIndented line then none else some (line.drop (leadingSpaces line))

/-- Take `levels` levels of indentation off the lines that have them. -/
def outdent (levels : Nat) (block : List Line) : List Line :=
  block.map fun line =>
    if levels * indentWidth ≤ leadingSpaces line then line.drop (levels * indentWidth) else line

/-! ## The lines of a text -/

/-- Whether nothing but blanks is in some text. -/
def isAllBlank (s : List Char) : Bool :=
  s.all Text.isBlank

/-- The line with its tabs filled up to the next multiple of the indentation, from column `n` on. -/
def expandTabs : Nat → Line → Line
  | _, [] => []
  | n, c :: rest =>
    if c == '\t' then
      let width := indentWidth - n % indentWidth
      List.replicate width ' ' ++ expandTabs (n + width) rest
    else c :: expandTabs (n + 1) rest

/-- The lines of a text without the marks of insets, and two blank ones after them. -/
def linesOf (text : String) : List Line :=
  let plain := text.toList.filter fun c => c != insetOpening && c != insetClosing
  let lines := (Text.splitOnChar '\n' (Text.unifyLineEnds plain)).map (expandTabs 0)
  let blanked := (lines.drop 1).map fun line => if line.all (· == ' ') then [] else line
  lines.take 1 ++ blanked ++ [[], []]

end AgentScript.Markup
