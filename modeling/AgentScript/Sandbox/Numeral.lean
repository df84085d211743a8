import AgentScript.Decimal.Binary
import AgentScript.Failure
import AgentScript.Value.JsonToken

set_option autoImplicit false

/-! # The numerals of code

Integers are written in base ten, or in base sixteen, eight or two after `0x`, `0o` or `0b`; numbers
with a point or an exponent are floating-point. A single underscore may stand between two digits. A
word must not follow a numeral at once, save for those that can go on an expression. -/

namespace AgentScript.Sandbox

/-- What is wrong with a numeral, and the offset and the width of what is marked for it. -/
structure NumeralFault where
  wording : String
  mark : Option (Nat × Nat)

/-- A numeral as it is read: its value, unless it is imaginary, and what follows it. -/
abbrev NumeralReading := Except NumeralFault (Option Value × List Char)

/-- The digits at the front of a text, single underscores between them left out, and the rest. -/
def takeDigits (isDigit : Char → Bool) : List Char → List Char × List Char
  | [] => ([], [])
  | '_' :: c :: rest =>
    if isDigit c then
      let (digits, after) := takeDigits isDigit rest
      (c :: digits, after)
    else ([], '_' :: c :: rest)
  | c :: rest =>
    if isDigit c then
      let (digits, after) := takeDigits isDigit rest
      (c :: digits, after)
    else ([], c :: rest)

/-- A fault that marks the last character before `rest`, in a numeral of `size` characters with all
    that follows it. -/
def faultBefore (size : Nat) (rest : List Char) (wording : String) : NumeralFault :=
  ⟨wording, some (size - rest.length - 1, 1)⟩

/-- The words that may follow a numeral at once. -/
def followingWords : List String :=
  ["and", "else", "for", "if", "in", "is", "or", "not"]

/-- Whether a text goes on with a word that must not follow a numeral at once. -/
def goesOn (rest : List Char) : Bool :=
  rest.head?.any (fun c => c.isAlphanum || c == '_') &&
    !followingWords.any fun word => word.toList.isPrefixOf rest

/-- End a numeral of a kind where `rest` follows. -/
def endNumeral (size : Nat) (kind : String) (value : Option Value) (rest : List Char) :
    NumeralReading :=
  if goesOn rest then .error (faultBefore size rest ("invalid " ++ kind ++ " literal"))
  else .ok (value, rest)

/-! ## Other bases -/

/-- A base that is named by a letter, and how its numerals are called. -/
structure Base where
  size : Nat
  kind : String

/-- The base that a letter after a zero names. -/
def Base.named? (letter : Char) : Option Base :=
  if letter == 'x' || letter == 'X' then some ⟨16, "hexadecimal"⟩
  else if letter == 'o' || letter == 'O' then some ⟨8, "octal"⟩
  else if letter == 'b' || letter == 'B' then some ⟨2, "binary"⟩
  else none

/-- The value of a digit in a base. -/
def Base.digit? (b : Base) (c : Char) : Option Nat :=
  (Value.hexValue? c).filter (· < b.size)

/-- The numeral in a base whose digits begin after `size - digits.length` characters. -/
def readBased (size : Nat) (b : Base) (digits : List Char) : NumeralReading :=
  let (taken, rest) := takeDigits (fun c => (b.digit? c).isSome) digits
  let after := if rest.head? == some '_' then rest.drop 1 else rest
  if after.head?.any Char.isDigit then
    let wrong := String.ofList (after.take 1)
    .error (faultBefore size (after.drop 1)
      ("invalid digit '" ++ wrong ++ "' in " ++ b.kind ++ " literal"))
  else if taken.isEmpty || after.length < rest.length then
    .error (faultBefore size after ("invalid " ++ b.kind ++ " literal"))
  else
    let value := (taken.filterMap b.digit?).foldl (fun n d => b.size * n + d) 0
    endNumeral size b.kind (some (.int value)) rest

/-! ## Base ten -/

/-- Decimal digits at the front of a text; an underscore must not end them. -/
def readDecimals (size : Nat) (s : List Char) : Except NumeralFault (List Char × List Char) :=
  let (digits, rest) := takeDigits Char.isDigit s
  if !digits.isEmpty && rest.head? == some '_' then
    .error (faultBefore size (rest.drop 1) "invalid decimal literal")
  else .ok (digits, rest)

/-- A fraction after the point that begins it, if there is one. -/
def readFraction (size : Nat) :
    List Char → Except NumeralFault (Option (List Char) × List Char)
  | '.' :: c :: rest =>
    if c.isDigit then do
      let (digits, rest) ← readDecimals size (c :: rest)
      return (some digits, rest)
    else .ok (some [], c :: rest)
  | ['.'] => .ok (some [], [])
  | rest => .ok (none, rest)

/-- An exponent, if there is one. -/
def readPower (size : Nat) (s : List Char) : Except NumeralFault (Option Int × List Char) :=
  match s with
  | mark :: rest =>
    if mark != 'e' && mark != 'E' then .ok (none, s)
    else
      let (negative, digits) := Decimal.readSign rest
      if digits.head?.any Char.isDigit then do
        let (digits, after) ← readDecimals size digits
        let power : Int := Decimal.natOfChars digits
        return (some (if negative then -power else power), after)
      else if digits.length < rest.length then
        .error (faultBefore size digits "invalid decimal literal")
      else .ok (none, s)
  | [] => .ok (none, s)

/-- What is wrong with the digits of an integer. -/
def integerFault? (s digits : List Char) : Option NumeralFault :=
  if digits.head? == some '0' && digits.any (· != '0') then
    some ⟨"leading zeros in decimal integer literals are not permitted; " ++
      "use an 0o prefix for octal integers",
      some (0, (s.takeWhile fun c => c == '0' || c == '_').length)⟩
  else if digitLimit < digits.length then
    some ⟨(Failure.numeralTooLong digits.length).message ++ " - Consider hexadecimal for huge " ++
      "integer literals to avoid decimal conversion limits.", none⟩
  else none

/-- The numeral in base ten at the front of a text. -/
def readDecimal (s : List Char) : NumeralReading := do
  let size := s.length
  let (whole, rest) ← readDecimals size s
  let (fraction, rest) ← readFraction size rest
  let (power, rest) ← readPower size rest
  match rest with
  | c :: after =>
    if c == 'j' || c == 'J' then endNumeral size "imaginary" none after
    else finish size whole fraction power rest
  | [] => finish size whole fraction power rest
where
  finish (size : Nat) (whole : List Char) (fraction : Option (List Char)) (power : Option Int)
      (rest : List Char) : NumeralReading :=
    if fraction.isNone && power.isNone then
      match integerFault? s whole with
      | some fault => .error fault
      | none => endNumeral size "decimal" (some (.int (Decimal.natOfChars whole))) rest
    else
      let x := (Decimal.Numeral.mk false whole (fraction.getD []) (power.getD 0)).toFloat
      endNumeral size "decimal" (some (.float x)) rest

/-- Whether a numeral is at the front of a text. -/
def beginsNumeral : List Char → Bool
  | '.' :: c :: _ => c.isDigit
  | c :: _ => c.isDigit
  | [] => false

/-- The numeral at the front of a text. -/
def readNumeral (s : List Char) : NumeralReading :=
  match s with
  | '0' :: letter :: digits =>
    match Base.named? letter with
    | some b => readBased s.length b digits
    | none => readDecimal s
  | _ => readDecimal s

end AgentScript.Sandbox
