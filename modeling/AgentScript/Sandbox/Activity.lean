import AgentScript.Failure
import AgentScript.Value.Basic

set_option autoImplicit false

/-! # Sandboxed code at work

Code in a sandbox is seen only through what it does to the run that started it: it reads inputs and
sets outputs, one after the other, and ends with a value or a failure. A read or a write may itself
fail, which the code gets to know. -/

namespace AgentScript

/-- What running code does next. -/
inductive Activity where
  | finish (result : Except Failure Value)
  | read (key : String) (next : Except Failure Value → Activity)
  | write (key : String) (value : Value) (next : Except Failure Unit → Activity)
  /-- The sandbox notes something for the trace. -/
  | note (message : String) (next : Activity)

/-- How the preparation of a sandbox went. -/
structure Boot where
  notes : List String := []
  result : Except Failure Unit := .ok ()

/-- A sandbox, by what it answers: to being prepared, which may be tried several times, and to being
    given code, which may depend on the code it was given before. -/
structure Sandbox where
  boot : (attempt : Nat) → Boot
  run : (earlier : List String) → (code : String) → Activity

namespace Activity

/-- Follow up the result of an activity. -/
def andThen : Activity → (Except Failure Value → Activity) → Activity
  | .finish result, f => f result
  | .read key next, f => .read key fun r => (next r).andThen f
  | .write key value next, f => .write key value fun r => (next r).andThen f
  | .note message next, f => .note message (next.andThen f)

/-- An activity whose failure is seen as another one. -/
def mapError (a : Activity) (f : Failure → Failure) : Activity :=
  a.andThen fun result => .finish (result.mapError f)

/-- Let an activity run against fixed inputs: its result and the outputs it sets. -/
def play (inputs : String → Value) : Activity → Except Failure Value × List (String × Value)
  | .finish result => (result, [])
  | .read key next => (next (.ok (inputs key))).play inputs
  | .write key value next =>
    let (result, outputs) := (next (.ok ())).play inputs
    (result, (key, value) :: outputs)
  | .note _ next => next.play inputs

end Activity

end AgentScript
