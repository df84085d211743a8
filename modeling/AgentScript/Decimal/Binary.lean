import AgentScript.Decimal.Shortest
import AgentScript.Text.Digit

set_option autoImplicit false

/-! # Reading and writing binary floating-point numbers

A number is written with the fewest digits that read back. Numbers of ordinary size are written
positionally and keep at least one digit after the point; very large and very small ones carry an
exponent of at least two digits with its sign. -/

namespace AgentScript.Decimal

/-- What a double-precision number is. -/
inductive Shape where
  | nan
  | infinite (negative : Bool)
  | zero (negative : Bool)
  | finite (negative : Bool) (mantissa : Nat) (exponent : Int) (narrow : Bool)

/-- The shape of a number, from the fields of its 64-bit form. -/
def shape (x : Float) : Shape :=
  let bits := x.toBits.toNat
  let negative := bits / powTwo 63 == 1
  let exponent : Nat := bits / powTwo 52 % powTwo 11
  let fraction : Nat := bits % powTwo 52
  if exponent == 2047 then
    if fraction == 0 then .infinite negative else .nan
  else if exponent == 0 then
    if fraction == 0 then .zero negative else .finite negative fraction (-1074) false
  else
    .finite negative (powTwo 52 + fraction) ((exponent : Int) - 1075)
      (fraction == 0 && exponent != 1)

/-! ## Writing -/

/-- How numbers are laid out. -/
structure Layout where
  /-- The point's positions, counted from the first digit, for which no exponent is written. -/
  positionalAbove : Int
  positionalUpTo : Int
  /-- The least number of digits of an exponent. -/
  exponentWidth : Nat
  nan : String
  infinity : String

/-- Positional notation from four zeros after the point up to sixteen digits before it. -/
def plain : Layout := ⟨-4, 16, 2, "nan", "inf"⟩

/-- The layout of numbers inside structured text. -/
def structured : Layout := { plain with nan := "NaN", infinity := "Infinity" }

/-- The digits of `n`, with zeros in front up to `width` digits. -/
def digitsPadded (width n : Nat) : List Char :=
  let digits := Nat.toDigits 10 n
  List.replicate (width - digits.length) '0' ++ digits

/-- Digits with the point after the first `places` of them. -/
def positional (digits : List Char) (places : Int) : List Char :=
  if places ≤ 0 then '0' :: '.' :: List.replicate (-places).toNat '0' ++ digits
  else
    let whole := digits.take places.toNat
    let rest := digits.drop places.toNat
    whole ++ List.replicate (places.toNat - digits.length) '0' ++
      '.' :: (if rest.isEmpty then ['0'] else rest)

/-- Digits with the point after the first one and an exponent. -/
def scientific (layout : Layout) (digits : List Char) (places : Int) : List Char :=
  let exponent := places - 1
  let sign := if exponent < 0 then '-' else '+'
  let fraction := digits.drop 1
  digits.take 1 ++ (if fraction.isEmpty then [] else '.' :: fraction) ++
    'e' :: sign :: digitsPadded layout.exponentWidth exponent.natAbs

/-- The text of a number in the given layout. -/
def Layout.write (layout : Layout) (x : Float) : String :=
  let signed (negative : Bool) (body : List Char) :=
    String.ofList (if negative then '-' :: body else body)
  match shape x with
  | .nan => layout.nan
  | .infinite negative => signed negative layout.infinity.toList
  | .zero negative => signed negative ['0', '.', '0']
  | .finite negative mantissa exponent narrow =>
    let (digits, places) := (Fraction.ofBinary mantissa exponent narrow).shortest
    signed negative <|
      if layout.positionalAbove < places && places ≤ layout.positionalUpTo then
        positional digits places
      else scientific layout digits places

/-! ## Reading -/

/-- The number nearest to `mantissa · 10 ^ exponent`. Values beyond the range are settled by their
    size alone. -/
def nearest (mantissa : Nat) (exponent : Int) : Float :=
  let places := (Nat.toDigits 10 mantissa).length + exponent
  if mantissa == 0 || places < -330 then 0.0
  else if places > 310 then Float.ofScientific 1 false 400
  else if exponent < 0 then Float.ofScientific mantissa true exponent.natAbs
  else Float.ofScientific mantissa false exponent.natAbs

/-- A numeral taken apart: sign, digits before the point, digits after it, exponent. -/
structure Numeral where
  negative : Bool
  whole : List Char
  fraction : List Char
  exponent : Int

/-- The natural number that ASCII digits write. -/
def natOfChars (digits : List Char) : Nat :=
  Text.natOfDigits (digits.map fun c => c.toNat - 48)

/-- The number that a numeral writes. -/
def Numeral.toFloat (n : Numeral) : Float :=
  let size := nearest (natOfChars (n.whole ++ n.fraction)) (n.exponent - n.fraction.length)
  if n.negative then -size else size

/-- A sign in front of a numeral, and what follows it. -/
def readSign : List Char → Bool × List Char
  | '-' :: rest => (true, rest)
  | '+' :: rest => (false, rest)
  | rest => (false, rest)

/-- The exponent that a text writes, nothing standing for zero. -/
def readExponent : List Char → Option Int
  | [] => some 0
  | mark :: rest =>
    let (negative, digits) := readSign rest
    if (mark == 'e' || mark == 'E') && !digits.isEmpty && digits.all Char.isDigit then
      some (if negative then -(natOfChars digits : Int) else natOfChars digits)
    else none

/-- The number that a text writes, the names of the special values included. -/
def read? (text : String) : Option Float :=
  let (negative, body) := readSign text.toList
  let signed (x : Float) := some (if negative then -x else x)
  if body == "inf".toList then signed (Float.ofScientific 1 false 400)
  else if body == "nan".toList then signed (0.0 / 0.0)
  else
    let whole := body.takeWhile Char.isDigit
    let rest := body.dropWhile Char.isDigit
    let (fraction, tail) :=
      match rest with
      | '.' :: more => (more.takeWhile Char.isDigit, more.dropWhile Char.isDigit)
      | _ => ([], rest)
    if whole.isEmpty && fraction.isEmpty then none
    else (readExponent tail).map fun e => (Numeral.mk negative whole fraction e).toFloat

/-! ## Integers among the numbers -/

/-- The integer that a number equals, if it is one. -/
def toInt? (x : Float) : Option Int :=
  match shape x with
  | .nan | .infinite _ => none
  | .zero _ => some 0
  | .finite negative mantissa exponent _ =>
    let num := mantissa * powTwo exponent.toNat
    let den := powTwo (-exponent).toNat
    if num % den == 0 then
      some (if negative then -((num / den : Nat) : Int) else (num / den : Nat))
    else none

end AgentScript.Decimal
