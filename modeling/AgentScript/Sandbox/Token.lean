import AgentScript.Sandbox.Numeral
import AgentScript.Text.Identifier
import AgentScript.Text.Printable

set_option autoImplicit false

/-! # The tokens of code

The parts that code is written with: words, constants, and marks. Words that are reserved are told
from names by how they are spelled; of names only the normal form counts. Texts are enclosed in
quotes, or in three of them to go over several lines, and hold escapes unless they are raw. -/

namespace AgentScript.Sandbox

/-- A token of code. -/
inductive Token where
  | name (text : String)
  | keyword (text : String)
  | constant (v : Value)
  /-- A constant that is no value here: an imaginary number or a text with fields to fill in. -/
  | foreign
  | mark (text : String)

/-! ## Words -/

/-- The words that cannot be names. -/
def reservedWords : List String :=
  ["False", "None", "True", "and", "as", "assert", "async", "await", "break", "class", "continue",
    "def", "del", "elif", "else", "except", "finally", "for", "from", "global", "if", "import",
    "in", "is", "lambda", "nonlocal", "not", "or", "pass", "raise", "return", "try", "while",
    "with", "yield"]

/-- Whether `c` belongs to a word, be it a sound one or not. -/
def isWordPart (c : Char) : Bool :=
  128 ≤ c.toNat || Text.isIdentifierChar c

/-- How many characters a word has in front of the first that does not fit; `none` if all fit. -/
def misfit? : List Char → Option Nat
  | [] => none
  | c :: rest =>
    if !Text.startsIdentifier c then some 0
    else (rest.findIdx? fun c => !Text.isIdentifierChar c).map (· + 1)

/-- The token that a sound word is. -/
def Token.ofWord (word : List Char) : Token :=
  let text := String.ofList word
  if reservedWords.contains text then .keyword text
  else .name (String.ofList (Text.canonicalName word))

/-! ## Texts -/

/-- How a text is enclosed, and what is to be made of it. -/
structure Quotation where
  quote : Char
  triple : Bool
  letters : List Char
deriving DecidableEq

/-- Whether `c` encloses texts. -/
def isQuote (c : Char) : Bool :=
  c == '"' || c == '\x27'

/-- Whether letters in front of a quote belong to the text. -/
def isTextPrefix (letters : List Char) : Bool :=
  ["", "r", "u", "b", "f", "br", "rb", "fr", "rf"].contains
    (String.ofList (letters.map Char.toLower))

/-- The opening of a text at the front of `s`, and what follows it. -/
def opening? (s : List Char) : Option (Quotation × List Char) :=
  let letters := s.takeWhile Char.isAlpha
  if !isTextPrefix letters then none
  else match s.dropWhile Char.isAlpha with
    | a :: b :: c :: rest =>
      if !isQuote a then none
      else if a == b && a == c then some (⟨a, true, letters⟩, rest)
      else some (⟨a, false, letters⟩, b :: c :: rest)
    | a :: rest => if isQuote a then some (⟨a, false, letters⟩, rest) else none
    | [] => none

/-- How far a text goes within a line: to its end, to a backslash that ends the line, or beyond. -/
inductive Extent where
  | closed (content rest : List Char)
  | continued (content : List Char)
  | unclosed (content : List Char)

/-- The same extent with one more piece of content in front. -/
def Extent.after (before : List Char) : Extent → Extent
  | .closed content rest => .closed (before ++ content) rest
  | .continued content => .continued (before ++ content)
  | .unclosed content => .unclosed (before ++ content)

/-- How far a text goes, escapes left as they are. -/
def Quotation.extent (q : Quotation) : List Char → Extent
  | [] => .unclosed []
  | ['\\'] => .continued ['\\']
  | '\\' :: c :: rest => (q.extent rest).after ['\\', c]
  | c :: rest =>
    if c == q.quote && !q.triple then .closed [] rest
    else if c == q.quote && [c, c].isPrefixOf rest then .closed [] (rest.drop 2)
    else (q.extent rest).after [c]

/-- The character that hexadecimal digits name. -/
def charOfHex? (digits : List Char) : Option Char := do
  let values ← digits.mapM Value.hexValue?
  let code := values.foldl (fun n d => 16 * n + d) 0
  if code.isValidChar then some (Char.ofNat code) else none

/-- The character that a letter names after a backslash. -/
def letterEscape? (c : Char) : Option Char :=
  [('n', '\n'), ('t', '\t'), ('r', '\r'), ('a', '\x07'), ('b', '\x08'), ('f', '\x0c'),
    ('v', '\x0b'), ('\\', '\\'), ('"', '"'), ('\x27', '\x27')].lookup c

/-- How many hexadecimal digits belong to a letter after a backslash. -/
def hexEscape? (c : Char) : Option Nat :=
  [('x', 2), ('u', 4), ('U', 8)].lookup c

/-- The text that is meant by a text with escapes. The first argument bounds its length. -/
def unescape : Nat → List Char → List Char
  | fuel + 1, '\\' :: c :: rest =>
    if c == '\n' then unescape fuel rest
    else match letterEscape? c with
      | some meant => meant :: unescape fuel rest
      | none =>
        let octal := ((c :: rest).take 3).takeWhile fun d => '0' ≤ d && d ≤ '7'
        if !octal.isEmpty then
          let code := octal.foldl (fun n d => 8 * n + (d.toNat - 48)) 0
          Char.ofNat code :: unescape fuel ((c :: rest).drop octal.length)
        else match (hexEscape? c).bind fun n => (charOfHex? (rest.take n)).map fun m => (n, m) with
          | some (n, meant) => meant :: unescape fuel (rest.drop n)
          | none => '\\' :: c :: unescape fuel rest
  | fuel + 1, c :: rest => c :: unescape fuel rest
  | _, rest => rest

/-- Whether a letter stands in front of the opening quote. -/
def Quotation.has (q : Quotation) (letter : Char) : Bool :=
  q.letters.any fun c => c.toLower == letter

/-- The token that a text with its content is. -/
def Quotation.token (q : Quotation) (content : List Char) : Token :=
  let meant := if q.has 'r' then content else unescape content.length content
  if q.has 'f' then .foreign
  else if q.has 'b' then .constant (.bytes (meant.map fun c => UInt8.ofNat c.toNat))
  else .constant (.str (String.ofList meant))

/-! ## Marks -/

/-- The marks of more than one character, longer ones first. -/
def longMarks : List String :=
  ["...", "**=", "//=", ">>=", "<<=", "**", "//", ">>", "<<", "<=", ">=", "==", "!=", "->", "+=",
    "-=", "*=", "/=", "%=", "&=", "|=", "^=", "@=", ":="]

/-- The mark at the front of a text that is not empty. -/
def markAt (s : List Char) : String :=
  (longMarks.find? fun m => m.toList.isPrefixOf s).getD (String.ofList (s.take 1))

/-- The closing partner of a bracket. -/
def closes? (mark : String) : Option String :=
  [("(", ")"), ("[", "]"), ("\x7b", "\x7d")].lookup mark

/-- Whether a mark closes a bracket. -/
def isClosing (mark : String) : Bool :=
  [")", "]", "\x7d"].contains mark

/-- Whether `c` separates tokens and is none itself. -/
def isSpace (c : Char) : Bool :=
  c == ' ' || c == '\t' || c == '\x0c'

end AgentScript.Sandbox
