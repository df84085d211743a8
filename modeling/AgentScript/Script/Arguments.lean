import AgentScript.Failure
import AgentScript.Text.Blank

set_option autoImplicit false

/-! # The arguments of a call

A call begins on one line and takes in further lines as long as more parentheses have been opened
than closed. Its arguments are the text between the first opening parenthesis and the last closing
one, or all text after the opening one if it is not closed. -/

namespace AgentScript.Script

/-- The arguments of a call and how many lines it takes. -/
structure Captured where
  content : String
  lines : Nat

/-- The parentheses opened and closed in a line. -/
def parentheses (line : String) : Nat × Nat :=
  (line.toList.count '(', line.toList.count ')')

/-- How many of the lines after the first belong to a call with the given parentheses so far. -/
def furtherLines (opened closed : Nat) : List String → Nat
  | [] => 0
  | line :: rest =>
    if closed < opened then
      1 + furtherLines (opened + (parentheses line).1) (closed + (parentheses line).2) rest
    else 0

/-- The text before the last occurrence of `mark`. -/
def beforeLast (mark : Char) (s : List Char) : Option (List Char) :=
  match s.reverse.dropWhile (· != mark) with
  | [] => none
  | _ :: before => some before.reverse

/-- The arguments inside the text of a call. A text that opens no parenthesis gives what stands
    before its last closing one, or else before its last character. -/
def argumentText (s : List Char) : List Char :=
  match s.dropWhile (· != '(') with
  | _ :: inner => (beforeLast ')' inner).getD inner
  | [] => (beforeLast ')' s).getD s.dropLast

/-- The call that begins on `line`, with `rest` after it. -/
def captureCall (line : String) (rest : List String) : Captured :=
  let (opened, closed) := parentheses line
  let further := furtherLines opened closed rest
  let text := String.intercalate "\n" (line :: rest.take further)
  ⟨String.ofList (argumentText text.toList), 1 + further⟩

/-- The lines from number `start` on. A negative number counts back from the end, and the last line
    is then followed by the first one. -/
def linesFrom (lines : List String) (start : Int) : List String :=
  if 0 ≤ start then lines.drop start.toNat
  else if start.natAbs ≤ lines.length then lines.drop (lines.length - start.natAbs) ++ lines
  else []

theorem linesFrom_natCast (lines : List String) (n : Nat) : linesFrom lines n = lines.drop n := by
  simp [linesFrom]

/-- The call that begins on the line of the given number, and the number of the line after it. -/
def captureAt (lines : List String) (start : Int) : Except Failure (String × Int) :=
  match linesFrom lines start with
  | [] => .error .lineOutOfRange
  | line :: rest =>
    let call := captureCall line rest
    .ok (call.content, start + call.lines)

end AgentScript.Script
