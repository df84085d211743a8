import AgentScript.Sandbox.Activity
import AgentScript.Sandbox.Imports
import AgentScript.Sandbox.Wrap

set_option autoImplicit false

/-! # The engine

The engine runs the code that it is given as the body of a function. Before any of it runs, the code
is read as a whole and the modules that it imports are loaded; loaded modules stay loaded for later
code. What code means and what can be loaded is not the engine's affair: that is up to the language
that the code is written in. -/

namespace AgentScript.Sandbox

/-- What an engine needs to know of the language of code. What can be loaded and what code does may
    depend on the code that has run before. -/
structure Language where
  /-- The statements of a text of code, unless it cannot be read. -/
  read : (code : String) → Except Failure (List Tree)
  /-- Load the module of a name. -/
  load : (past : List String) → (name : String) → Except Failure Unit
  /-- What the function does that a text of code defines, unless it cannot be defined. -/
  body : (past : List String) → (code : String) → Except Failure Activity

/-- Whether the engine has been prepared, the modules that have been loaded, in order, and the code
    that has run. -/
structure Engine where
  ready : Bool := false
  loaded : List String := []
  past : List String := []

/-- What loading modules comes to: those newly loaded, and how the first failed that could not be. -/
structure Loading where
  modules : List String := []
  failure : Option Failure := none

/-- How a failure inside the sandbox leaves it: described in words, unless it interrupts
    everything. -/
def leaveCode (f : Failure) : Failure :=
  if f.kind == "KeyboardInterrupt" || f.kind == "asyncio.exceptions.CancelledError" then f
  else .sandbox f.describe

/-- An activity as it is seen from outside the sandbox. -/
def leaving (work : Activity) : Activity :=
  work.mapError leaveCode

/-- The body of a function as it is seen by those who wait for its end. -/
def awaiting (body : Activity) : Activity :=
  body.mapError Failure.awaited

namespace Engine

/-- Prepare the engine: what it notes, if it was not ready. -/
def bootNotes (e : Engine) : List String :=
  if e.ready then [] else ["python sandbox ready"]

/-- An activity that notes something first. -/
def noting (notes : List String) (a : Activity) : Activity :=
  notes.foldr .note a

end Engine

namespace Language

/-- Load the modules of a list that are not loaded yet, as far as that succeeds. -/
def loadAll (l : Language) (e : Engine) : List String → Loading
  | [] => {}
  | name :: rest =>
    if e.loaded.contains name then l.loadAll e rest
    else match l.load e.past name with
      | .ok () =>
        let more := l.loadAll { e with loaded := e.loaded ++ [name] } rest
        { more with modules := name :: more.modules }
      | .error f => { failure := some f }

/-- What code does once its modules have been loaded. -/
def call (l : Language) (e : Engine) (code : String) : Activity :=
  match l.body e.past code with
  | .ok body => awaiting body
  | .error f => .finish (.error f)

/-- What code does inside the sandbox, and the modules loaded for it. -/
def start (l : Language) (e : Engine) (code : String) : Activity × List String :=
  match l.read (wrapCode code) with
  | .error f => (.finish (.error f), [])
  | .ok trees =>
    let loading := l.loadAll e (importsOf trees)
    let notes := loading.modules.map fun name => "loaded module " ++ name
    let activity := match loading.failure with
      | some f => .finish (.error f)
      | none => l.call e (wrapCode code)
    (Engine.noting notes activity, loading.modules)

/-- Run code: what it does, and the engine after it. -/
def run (l : Language) (e : Engine) (code : String) : Activity × Engine :=
  let (activity, modules) := l.start e code
  (Engine.noting e.bootNotes (leaving activity),
    { ready := true, loaded := e.loaded ++ modules, past := e.past ++ [code] })

/-- An engine after some code. -/
def after (l : Language) (e : Engine) (codes : List String) : Engine :=
  codes.foldl (fun e code => (l.run e code).2) e

/-- An engine for the language, as a sandbox. -/
def sandbox (l : Language) : Sandbox where
  boot attempt := { notes := Engine.bootNotes { ready := attempt != 0 } }
  run earlier code := (l.run (l.after { ready := true } earlier) code).1

end Language

end AgentScript.Sandbox
