import AgentScript.Failure
import AgentScript.Text.Digit

set_option autoImplicit false

/-! # Integers as text

Integers are unbounded, but no more than `digitLimit` digits are written or read as text. -/

namespace AgentScript.Decimal

/-- The digits of `n` with its sign, if there are not too many of them. -/
def writeInteger? (n : Int) : Option (List Char) :=
  let digits := Nat.toDigits 10 n.natAbs
  if digits.length ≤ digitLimit then some (if n < 0 then '-' :: digits else digits) else none

/-- The natural number that a text of digits writes. Too many decimal digits at its front are the
    first thing to be complained about, then a digit that is not a decimal one. -/
def readNatural (text : String) : Except Failure Nat :=
  let values := text.toList.map Text.decimalValue?
  let digits := (values.takeWhile Option.isSome).filterMap id
  if digitLimit < digits.length then .error (.numeralTooLong digits.length)
  else if digits.length = values.length then .ok (Text.natOfDigits digits)
  else .error (.badNumeral text)

end AgentScript.Decimal
