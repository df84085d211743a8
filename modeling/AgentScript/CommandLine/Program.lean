import AgentScript.CommandLine.Usage
import AgentScript.Markup.Document
import AgentScript.Run.Script
import AgentScript.Sandbox.Plain
import AgentScript.Settings

set_option autoImplicit false

/-! # The program

The program runs one script file: in a fresh workspace, with the sandbox engine, and with the models
that the environment names. It prints the answer. What it finds around it (files, variables, models)
is a parameter, so that all it does is a function of its surroundings and its arguments. -/

namespace AgentScript.CommandLine

/-- What a path leads to. -/
inductive Place where
  | file (text : String)
  | folder

/-- What the program finds around it. -/
structure Surroundings where
  /-- What a path leads to, if it leads anywhere. -/
  place : String → Option Place
  /-- The value of a variable, if it is set. -/
  environment : String → Option String
  /-- The answer of a model. -/
  client : Generation.ModelRequest → Except Failure (Option String)

/-- What the program leaves behind. -/
structure Outcome where
  output : String := ""
  complaint : String := ""
  status : Nat := 0
  trace : Option Trace := none

/-- The shortest way to write a path: without empty steps and steps that stay in place. -/
def shownPath (path : String) : String :=
  let root :=
    if Text.beginsWith "//" path && !Text.beginsWith "///" path then "//"
    else if Text.beginsWith "/" path then "/"
    else ""
  let steps := (Text.splitOnChar '/' path.toList).filter fun step => !step.isEmpty && step != ['.']
  let shown := root ++ String.intercalate "/" (steps.map String.ofList)
  if shown == "" then "." else shown

/-- What keeps the program from reading a file: it stops with a complaint, or breaks down. -/
inductive Unreadable where
  | missing (path : String)
  | broken (f : Failure)

/-- Whether a path, or the first name in it, is longer than any that can exist. -/
def isTooLong (path : String) : Bool :=
  let names := (Text.splitOnChar '/' path.toList).filter fun step =>
    !step.isEmpty && step != ['.', '.']
  4095 < path.utf8ByteSize || names.head?.any fun name => 255 < (String.ofList name).utf8ByteSize

/-- The text of a file, every line ended by a newline. -/
def Surroundings.read (s : Surroundings) (path : String) : Except Unreadable String :=
  let path := shownPath path
  match s.place path with
  | some (.file text) => .ok (String.ofList (Text.unifyLineEnds text.toList))
  | some .folder => .error (.broken (.isFolder path))
  | none => .error (if isTooLong path then .broken (.nameTooLong path) else .missing path)

/-- The generator that the environment and the command line name. -/
def Surroundings.generator (s : Surroundings) (invocation : Invocation) : Generator :=
  let settings := Settings.ofEnvironment s.environment
  match settings.apiKey with
  | none => Generation.withoutKey
  | some _ =>
    let model := (invocation.model.filter (· != "")).getD settings.model
    ({ model := model } : Generation.Remote).generator s.client

/-- The answer messages of a workspace, a line each. -/
def printedAnswers (w : Workspace) : String :=
  String.join ((w.messages.filter fun m => m.type == "text").map fun m => m.text ++ "\n")

/-- What is left behind when a script has run. -/
def Outcome.ofRun (run : Run) (w : World) : Outcome :=
  let trace := if w.trace.level == 0 then none else some w.trace
  match run.error with
  | some notice => { complaint := "Runtime error: " ++ notice ++ "\n", status := 1, trace := trace }
  | none => { output := printedAnswers w.workspace, trace := trace }

/-- Run the script that was asked for. An interrupt and a file that cannot be read are left to the
    caller. -/
def runInvocation (s : Surroundings) (invocation : Invocation) : Except Failure Outcome :=
  let texts : Except Unreadable (String × Value) := do
    let source ← s.read invocation.script
    match Command.nonempty? invocation.promptFile with
    | some path => return (source, .str (← s.read path))
    | none => return (source, invocation.prompt.elim (.list []) .str)
  match texts with
  | .error (.missing path) =>
    .ok { complaint := "Error: file " ++ path ++ " not found\n", status := 1 }
  | .error (.broken f) => .error f
  | .ok (source, prompt) =>
    let collaborators : Collaborators :=
      { generator := s.generator invocation
        sandbox := some Sandbox.Engine.sandbox
        render := fun text => .ok (Markup.render text) }
    let world := World.initial (.ofPlan invocation.plan) invocation.verbosity
    match world.play collaborators (runScript source prompt) with
    | ((.error f, _), _) => .error f
    | ((.ok (), run), world) => .ok (Outcome.ofRun run world)

/-- What the program does with its arguments. -/
def run (s : Surroundings) (arguments : List String) : Except Failure Outcome :=
  match Invocation.ofArguments arguments with
  | .error .helpAsked => .ok { output := helpText }
  | .error (.wrong e) => .ok { complaint := e.report, status := 2 }
  | .ok invocation => runInvocation s invocation

end AgentScript.CommandLine
