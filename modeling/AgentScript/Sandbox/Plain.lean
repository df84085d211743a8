import AgentScript.Sandbox.Engine
import AgentScript.Sandbox.Evaluation

set_option autoImplicit false

/-! # The plain language

In the plain language, code is made of simple statements, and there are a few modules to import.
Compound statements are read, and what they import is found, but code that holds one does not
run. -/

namespace AgentScript.Sandbox

namespace Plain

/-- The modules that can be loaded. -/
def modules : List String := ["json", "math", "os", "collections"]

/-- Load the module of a name. -/
def load (name : String) : Except Failure Unit :=
  if modules.contains name then .ok ()
  else .error (codeFailure "ModuleNotFoundError" ("No module named '" ++ name ++ "'"))

/-- The statements inside the function that code was wrapped in. -/
def bodyOf : List Tree → List Tree
  | [.scope body] => body
  | _ => []

/-- The statement that a tree is, if it is a simple one. -/
def simple? : Tree → Option Simple
  | .simple s => some s
  | _ => none

/-- The fault of an instruction that cannot stand inside a function. -/
def misplaced? : Instruction → Option Failure
  | .importAll line =>
    some (.malformed
      { file := "<flowscript>", kind := "SyntaxError", line := line, text := none, column := none
        wording := "import * only allowed at module level" })
  | _ => none

/-- The instructions that the simple statements of code are; what cannot be read as one is
    malformed. -/
def instructionsOf (trees : List Tree) : Except Failure (List Instruction) := do
  return ((← ((bodyOf trees).filterMap simple?).mapM Instruction.ofSimple)).flatten

/-- Read a text of code. -/
def read (code : String) : Except Failure (List Tree) := do
  let trees ← treesOf code
  let _ ← instructionsOf trees
  return trees

/-- What the function in a text of code does. -/
def body (code : String) : Except Failure Activity := do
  let trees ← treesOf code
  let instructions ← instructionsOf trees
  match instructions.findSome? misplaced? with
  | some f => .error f
  | none =>
    if (bodyOf trees).all fun t => (simple? t).isSome then return activityOf instructions
    else .error (codeFailure "NotImplementedError" "compound statements do not run here")

/-- The plain language. What code does depends on no other code. -/
def language : Language where
  read := read
  load _ := load
  body _ := body

end Plain

namespace Engine

/-- Run code in the plain language: what it does, and the engine after it. -/
def run (e : Engine) (code : String) : Activity × Engine :=
  Plain.language.run e code

/-- The engine for the plain language as a sandbox. -/
def sandbox : Sandbox :=
  Plain.language.sandbox

end Engine

end AgentScript.Sandbox
