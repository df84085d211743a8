import AgentScript.Text.CharSet

set_option autoImplicit false

/-! # Blanks and lines

Blanks are the white-space characters of any script together with the ASCII separators. `strip`
takes them off both ends of a text. Lines end at a wider set of marks than the newline; `splitLines`
keeps each line's mark, so that the lines of a text concatenate to it. -/

namespace AgentScript.Text

/-- All white space, the four ASCII separators included. -/
def blanks : CharSet := ⟨
  [(0x09, 0x0D), (0x1C, 0x20), (0x85, 0x85), (0xA0, 0xA0), (0x1680, 0x1680), (0x2000, 0x200A),
   (0x2028, 0x2029), (0x202F, 0x202F), (0x205F, 0x205F), (0x3000, 0x3000)]⟩

/-- White space of any kind. -/
def isBlank (c : Char) : Bool :=
  blanks.contains c

/-- The characters of `s` without the blanks at its end. -/
def dropBlanksRight (s : List Char) : List Char :=
  (s.reverse.dropWhile isBlank).reverse

/-- The characters of `s` without the blanks at either end. -/
def stripChars (s : List Char) : List Char :=
  dropBlanksRight (s.dropWhile isBlank)

/-- The text without the blanks at either end. -/
def strip (s : String) : String :=
  String.ofList (stripChars s.toList)

/-! ## Lines -/

/-- The marks that end a line. -/
def isLineEnd (c : Char) : Bool :=
  (0x0A ≤ c.toNat && c.toNat ≤ 0x0D) || (0x1C ≤ c.toNat && c.toNat ≤ 0x1E) ||
    c.toNat == 0x85 || c.toNat == 0x2028 || c.toNat == 0x2029

/-- Put `c` in front of the first line. -/
def consToHead (c : Char) : List (List Char) → List (List Char)
  | [] => [[c]]
  | line :: lines => (c :: line) :: lines

/-- The lines of `s`, each with the mark that ends it; a carriage return and a newline after it are
    one mark. -/
def splitLines : List Char → List (List Char)
  | [] => []
  | '\r' :: '\n' :: rest => ['\r', '\n'] :: splitLines rest
  | c :: rest => if isLineEnd c then [c] :: splitLines rest else consToHead c (splitLines rest)

/-- A carriage return with a newline after it becomes a newline. -/
def joinLineEnds : List Char → List Char
  | [] => []
  | '\r' :: '\n' :: rest => '\n' :: joinLineEnds rest
  | c :: rest => c :: joinLineEnds rest

/-- Every carriage return becomes a newline, together with a newline after it. -/
def unifyLineEnds : List Char → List Char
  | [] => []
  | '\r' :: '\n' :: rest => '\n' :: unifyLineEnds rest
  | '\r' :: rest => '\n' :: unifyLineEnds rest
  | c :: rest => c :: unifyLineEnds rest

/-- The pieces of `s` between the occurrences of `mark`, one more than there are marks. -/
def splitOnChar (mark : Char) : List Char → List (List Char)
  | [] => [[]]
  | c :: rest =>
    if c == mark then [] :: splitOnChar mark rest else consToHead c (splitOnChar mark rest)

/-- The lines of a text that only newlines divide. -/
def newlineSplit (s : String) : List String :=
  (splitOnChar '\n' s.toList).map String.ofList

end AgentScript.Text
