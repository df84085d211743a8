import AgentScript.Text.Printable

set_option autoImplicit false

/-! # Quoted literals

A quoted literal shows a text on one line: printable characters as they are, the common control
characters by name, all others by number. Single quotes enclose it unless the text holds a single
quote and no double quote. -/

namespace AgentScript.Text

/-- `n` in hexadecimal, with zeros in front up to `width` digits. -/
def hexPadded (width n : Nat) : List Char :=
  let digits := Nat.toDigits 16 n
  List.replicate (width - digits.length) '0' ++ digits

/-- How `c` is written between two `quote` characters. -/
def escapeChar (quote c : Char) : List Char :=
  if c == quote || c == '\\' then ['\\', c]
  else if c == '\n' then ['\\', 'n']
  else if c == '\r' then ['\\', 'r']
  else if c == '\t' then ['\\', 't']
  else if isPrintable c then [c]
  else if c.toNat < 0x100 then '\\' :: 'x' :: hexPadded 2 c.toNat
  else if c.toNat < 0x10000 then '\\' :: 'u' :: hexPadded 4 c.toNat
  else '\\' :: 'U' :: hexPadded 8 c.toNat

/-- The quote that encloses `s`. -/
def quoteFor (s : List Char) : Char :=
  if s.contains '\x27' && !s.contains '"' then '"' else '\x27'

/-- The literal that stands for the characters `s`. -/
def quoteChars (s : List Char) : List Char :=
  let quote := quoteFor s
  quote :: s.flatMap (escapeChar quote) ++ [quote]

/-- The literal that stands for a text. -/
def quoted (s : String) : String :=
  String.ofList (quoteChars s.toList)

/-- The literal that stands for a sequence of bytes: the letter b, and every byte beyond ASCII by
    number. -/
def quotedBytes (bytes : List UInt8) : String :=
  let chars := bytes.map fun b => Char.ofNat b.toNat
  let quote := quoteFor chars
  let body := chars.flatMap fun c =>
    if c.toNat < 128 then escapeChar quote c else '\\' :: 'x' :: hexPadded 2 c.toNat
  String.ofList ('b' :: quote :: body ++ [quote])

end AgentScript.Text
