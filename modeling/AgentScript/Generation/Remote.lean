import AgentScript.Text.Record
import AgentScript.World

set_option autoImplicit false

/-! # Remote generators

A remote generator passes a prompt on to a model. It never fails: whatever goes wrong is reported in
the reply, which then begins with `Error`. -/

namespace AgentScript.Generation

/-- The model that is asked unless another one is named. -/
def defaultModel : String := "gemini-2.5-flash"

/-- The temperature that is used unless another one is given. -/
def defaultTemperature : Option Float := some 0.7

/-- The temperature that a value stands for: numbers do and what can be read as one, and null leaves
    it to the model. -/
def temperatureOf? : Value → Option (Option Float)
  | .null => some none
  | .bool b => some (some (if b then 1.0 else 0.0))
  | .int n => some (some (Float.ofInt n))
  | .float x => some (some x)
  | .str s => (Decimal.read? (Text.strip s)).map some
  | _ => none

/-- What is sent to a model. -/
structure ModelRequest where
  model : String
  contents : String
  temperature : Option Float
  instruction : Option String

/-- A generator that asks a model. -/
structure Remote where
  model : String := defaultModel
  temperature : Option Float := defaultTemperature

/-- What is sent for a prompt; an empty instruction is none. -/
def Remote.request (r : Remote) (prompt : String) (instruction : Option String) : ModelRequest :=
  { model := r.model, contents := prompt, temperature := r.temperature
    instruction := instruction.filter (· != "") }

/-- What is replied for the answer of a model, which may have no text. Interrupts are no answers. -/
def replyOf (answer : Except Failure (Option String)) : Except Failure String :=
  match answer with
  | .ok text => .ok (text.getD "")
  | .error f => if f.isOrdinary then .ok ("Error: " ++ f.awaited.message) else .error f

/-- Reply to a prompt, asking a model through `client`. -/
def Remote.reply (r : Remote) (client : ModelRequest → Except Failure (Option String))
    (prompt : String) (instruction : Option String) : Except Failure String :=
  replyOf (client (r.request prompt instruction))

/-- The reply of a generator that has no key to any model. -/
def missingKeyReply : String := "Error: GEMINI_API_KEY is not set"

/-- The generator that has no key to any model. -/
def withoutKey : Generator := fun _ _ _ => .ok missingKeyReply

/-- The generator that asks a model through `client`. -/
def Remote.generator (r : Remote) (client : ModelRequest → Except Failure (Option String)) :
    Generator :=
  fun _ prompt instruction => r.reply client prompt instruction

end AgentScript.Generation
