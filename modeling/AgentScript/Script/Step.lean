import AgentScript.Script.Arguments
import AgentScript.Script.Statement

set_option autoImplicit false

/-! # The steps of a block

Which lines of a block belong together does not depend on what happens when it runs. A block is
therefore a list of steps, each made from a statement and the further lines that it takes in: the
arguments of a call, or the body of an override up to its end. Blank lines and comments make no
step. -/

namespace AgentScript.Script

/-- What a step does. -/
inductive Action where
  /-- Make a text the answer. -/
  | override (body : String)
  | callAgent (agent arguments : String)
  | callCommand (name arguments : String)
  /-- Keep the last result under a name. -/
  | keep (name : Option String)
  /-- Register an agent. -/
  | register (agent : Option String)
  | nothing

/-- A step of a block: the number and the text of the line that begins it, what that line was
    recognised as, and what is to be done. -/
structure Step where
  line : Nat
  text : String
  statement : Option Statement
  action : Action

/-- The step that a statement makes, and how many of the lines after its own belong to it. -/
def Action.ofStatement (s : Option Statement) (line : String) (rest : List String) : Action × Nat :=
  match s with
  | some .overrideStart =>
    let body := rest.takeWhile fun line => !isOverrideEnd line
    (.override (Text.strip (String.intercalate "\n" body)), body.length + 1)
  | some (.agentCall agent) =>
    let call := captureCall line rest
    (.callAgent agent call.content, call.lines - 1)
  | some (.commandCall name) =>
    let call := captureCall line rest
    (.callCommand name call.content, call.lines - 1)
  | some (.getOutput name) => (.keep name, 0)
  | some (.setId agent) => (.register agent, 0)
  | some .expand | none => (.nothing, 0)

/-- Whether a line without the blanks around it makes no step. -/
def isSilent (text : String) : Bool :=
  text == "" || Text.beginsWith "#" text

/-- The steps of the lines from number `n` on. -/
def stepsFrom (n : Nat) : List String → List Step
  | [] => []
  | line :: rest =>
    let text := Text.strip line
    if isSilent text then stepsFrom (n + 1) rest
    else
      let statement := Statement.ofLine text
      let taken := Action.ofStatement statement line rest
      ⟨n, text, statement, taken.1⟩ :: stepsFrom (n + 1 + taken.2) (rest.drop taken.2)
termination_by lines => lines.length
decreasing_by
  · simp
  · simp only [List.length_drop, List.length_cons]
    omega

/-- The steps of a block. -/
def steps (block : String) : List Step :=
  stepsFrom 0 (Text.newlineSplit block)

/-- The step's line and what it was recognised as. -/
def Step.shown (s : Step) : String :=
  "line " ++ decimalText s.line ++ ": " ++ Text.quoted s.text ++ " -> " ++
    s.statement.elim "None" Statement.shown

end AgentScript.Script
