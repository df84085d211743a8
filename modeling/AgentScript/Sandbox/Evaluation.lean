import AgentScript.Bindings
import AgentScript.Sandbox.Activity
import AgentScript.Sandbox.Expression
import AgentScript.Sandbox.Library

set_option autoImplicit false

/-! # Running instructions

Instructions run in order, with names of their own that no other code sees. Reading an input and
setting an output are steps of the activity that they are; whatever fails ends it. -/

namespace AgentScript.Sandbox

/-! ## Names and steps -/

/-- The names of a run of code: those that have been given a meaning, and all that are given one
    somewhere in it. -/
structure Names where
  meanings : Bindings Object := .empty
  assigned : List String := []

/-- What a name stands for. A name that is given a meaning somewhere has none before that. -/
def Names.meaning (names : Names) (n : String) : Except Failure Object :=
  match names.meanings.get? n with
  | some o => .ok o
  | none =>
    if names.assigned.contains n then
      .error (codeFailure "UnboundLocalError"
        ("cannot access local variable '" ++ n ++ "' where it is not associated with a value"))
    else match predefined? n with
      | some o => .ok o
      | none => .error (codeFailure "NameError" ("name '" ++ n ++ "' is not defined"))

/-- Give a name a meaning. -/
def Names.bind (names : Names) (n : String) (o : Object) : Names :=
  { names with meanings := names.meanings.put n o }

/-- What is done with a result. -/
abbrev Next (α : Type) := Except Failure α → Activity

/-- Go on with a value; a failure goes on as it is. -/
def onValue {α β : Type} (next : Next β) (f : α → Activity) : Next α
  | .ok a => f a
  | .error e => next (.error e)

/-! ## The interface -/

/-- What the interface calls a feature, and the names of its parameters. -/
def Feature.signature : Feature → String × List String
  | .read => ("get_input", ["key"])
  | .write name => (name, ["key", "value"])

/-- The feature of a name. -/
def Feature.named? (name : String) : Option Feature :=
  if name == "get_input" then some .read
  else if name == "set_output" || name == "set_var" then some (.write name)
  else none

/-- Names in quotes in a row, with `and` before the last. -/
def listed : List String → String
  | [] => ""
  | [a] => "'" ++ a ++ "'"
  | [a, b] => "'" ++ a ++ "' and '" ++ b ++ "'"
  | a :: rest => "'" ++ a ++ "', " ++ listed rest

/-- The arguments of a call in the order of the parameters. -/
def Feature.arrange (f : Feature) (arguments : List Object) (named : List (String × Object)) :
    Except Failure (List Object) :=
  let (name, parameters) := f.signature
  let called := interfaceType ++ "." ++ name ++ "()"
  let fault (text : String) : Except Failure (List Object) :=
    .error (codeFailure "TypeError" (called ++ " " ++ text))
  let byPosition := parameters.take arguments.length
  match named.find? fun n => !parameters.contains n.1,
      named.find? fun n => byPosition.contains n.1 with
  | some n, _ => fault ("got an unexpected keyword argument '" ++ n.1 ++ "'")
  | none, some n => fault ("got multiple values for argument '" ++ n.1 ++ "'")
  | none, none =>
    let missing := (parameters.drop arguments.length).filter fun p => (named.lookup p).isNone
    if parameters.length < arguments.length then
      fault ("takes " ++ decimalText (parameters.length + 1) ++ " positional arguments but " ++
        decimalText (arguments.length + 1) ++ " were given")
    else if missing.isEmpty then
      .ok (arguments ++ (parameters.drop arguments.length).filterMap fun p => named.lookup p)
    else
      fault ("missing " ++ decimalText missing.length ++ " required positional argument" ++
        (if missing.length = 1 then "" else "s") ++ ": " ++ listed missing)

/-- The text under which a run knows the key that an object is. -/
def keyText : Object → Except Failure String
  | .value (.str s) => .ok s
  | .value v => if isKey v then v.toText else .error (notAKey v)
  | o => .ok o.typeName

/-- The value that leaves the sandbox for an object. -/
def Object.handOver : Object → Except Failure Value
  | .value v => .ok v
  | o => .error (codeFailure "TypeError" ("a " ++ o.typeName ++ " cannot leave the sandbox"))

/-- Use a feature with its arguments in order. -/
def Feature.use (f : Feature) (arguments : List Object) (next : Next Object) : Activity :=
  match f, arguments with
  | .read, [key] =>
    match keyText key with
    | .ok key => .read key fun r => next (r.map .value)
    | .error e => next (.error e)
  | .write _, [key, o] =>
    match keyText key, o.handOver with
    | .ok key, .ok v => .write key v fun r => next (r.map fun _ => .value .null)
    | .error e, _ | _, .error e => next (.error e)
  | _, _ => next (.ok (.value .null))

/-! ## Parts and calls -/

/-- How a failure begins that says what an object does not have. -/
def Object.described : Object → String
  | .kind name | .type name => "type object '" ++ name ++ "'"
  | .module path => "module '" ++ ((Module.at? path).elim path Module.title) ++ "'"
  | .feature _ => "'function' object"
  | o => "'" ++ o.typeName ++ "' object"

/-- What an object holds under a name. -/
def Object.part (o : Object) (name : String) : Except Failure Object :=
  let found := match o with
    | .interface => (Feature.named? name).map .feature
    | .module path => (Module.at? path).bind fun m => m.member? name
    | _ => none
  match found with
  | some part => .ok part
  | none =>
    .error (codeFailure "AttributeError" (o.described ++ " has no attribute '" ++ name ++ "'"))

/-- Call an object. -/
def Object.call (o : Object) (arguments : List Object) (named : List (String × Object))
    (next : Next Object) : Activity :=
  match o with
  | .feature f =>
    match f.arrange arguments named with
    | .ok arguments => f.use arguments next
    | .error e => next (.error e)
  | .kind name =>
    if named.isEmpty then
      next ((Failure.make name (arguments.map Object.particular)).map .failure)
    else next (.error (codeFailure "TypeError" (name ++ "() takes no keyword arguments")))
  | .type name => next (.ok (.other name))
  | .other "builtin_function_or_method" | .other "function" => next (.ok (.other "object"))
  | _ => next (.error (codeFailure "TypeError" ("'" ++ o.typeName ++ "' object is not callable")))

/-! ## Expressions -/

mutual

/-- Evaluate an expression and go on with what it stands for. -/
def evaluate (names : Names) : Expr → Next Object → Activity
  | .constant v, next => next (.ok (.value v))
  | .name n, next => next (names.meaning n)
  | .list es, next => evaluateAll names es (onValue next fun os => next (.ok (.ofList os)))
  | .tuple es, next => evaluateAll names es (onValue next fun os => next (.ok (.ofTuple os)))
  | .dict es, next => evaluateEntries names es (onValue next fun os => next (Object.ofEntries os))
  | .sum a b, next =>
    evaluate names a (onValue next fun v => evaluate names b (onValue next fun w => next (v.add w)))
  | .quotient a b, next =>
    evaluate names a (onValue next fun v =>
      evaluate names b (onValue next fun w => next (v.divide w)))
  | .signed negative e, next => evaluate names e (onValue next fun v => next (v.signed negative))
  | .part owner name, next => evaluate names owner (onValue next fun o => next (o.part name))
  | .call callee arguments named, next =>
    evaluate names callee (onValue next fun o =>
      evaluateAll names arguments (onValue next fun arguments =>
        evaluateNamed names named (onValue next fun named => o.call arguments named next)))

/-- Evaluate expressions in order and go on with what they stand for. -/
def evaluateAll (names : Names) : List Expr → Next (List Object) → Activity
  | [], next => next (.ok [])
  | e :: rest, next =>
    evaluate names e (onValue next fun o =>
      evaluateAll names rest (onValue next fun os => next (.ok (o :: os))))

/-- Evaluate expressions that have names, in order, and go on with what they stand for. -/
def evaluateNamed (names : Names) :
    List (String × Expr) → Next (List (String × Object)) → Activity
  | [], next => next (.ok [])
  | (n, e) :: rest, next =>
    evaluate names e (onValue next fun o =>
      evaluateNamed names rest (onValue next fun os => next (.ok ((n, o) :: os))))

/-- Evaluate the entries of a dictionary in order and go on with what they stand for. -/
def evaluateEntries (names : Names) :
    List (Expr × Expr) → Next (List (Object × Object)) → Activity
  | [], next => next (.ok [])
  | (key, value) :: rest, next =>
    evaluate names key (onValue next fun k =>
      evaluate names value (onValue next fun v =>
        evaluateEntries names rest (onValue next fun os => next (.ok ((k, v) :: os)))))

end

/-! ## Imports -/

/-- The name that an imported module is bound to, and the module that the name stands for: the first
    one on the path, unless the module is given a new name. -/
def Imported.binding (m : Imported) : String × String :=
  match m.renamed with
  | some name => (name, String.intercalate "." m.path)
  | none => (m.path.headD "", m.path.headD "")

/-- Import a module. -/
def Names.importModule (names : Names) (m : Imported) : Except Failure Names := do
  let _ ← importPath m.path
  return names.bind m.binding.1 (.module m.binding.2)

/-- The name that something imported from a module is bound to. -/
def Imported.boundName (m : Imported) : String :=
  m.renamed.getD (m.path.headD "")

/-- Import names from a module. -/
def Names.importFrom (names : Names) (level : Nat) (path : List String) (imported : List Imported) :
    Except Failure Names := do
  if level != 0 then
    .error (codeFailure "ImportError" "attempted relative import with no known parent package")
  else
    let m ← importPath path
    imported.foldlM (fun names i => do
      return names.bind i.boundName (← m.importName (i.path.headD "")))
      names

/-! ## Instructions -/

/-- Fail with what an expression stands for. -/
def raiseFailure (names : Names) (failure : Expr) (cause : Option Expr) (next : Next Value) :
    Activity :=
  evaluate names failure (onValue next fun o =>
    match cause with
    | none => next (.error o.raised)
    | some cause =>
      evaluate names cause (onValue next fun c =>
        if c.isCause then next (.error o.raised)
        else
          next (.error (codeFailure "TypeError"
            "exception causes must derive from BaseException"))))

/-- Run instructions and go on with the value they yield, null if they yield none. -/
def runInstructions : Names → List Instruction → Next Value → Activity
  | _, [], next => next (.ok .null)
  | names, i :: rest, next =>
    match i with
    | .skip | .importAll _ => runInstructions names rest next
    | .assign ns e =>
      evaluate names e (onValue next fun o =>
        runInstructions (ns.foldl (fun names n => names.bind n o) names) rest next)
    | .evaluate e => evaluate names e (onValue next fun _ => runInstructions names rest next)
    | .yield none => next (.ok .null)
    | .yield (some e) => evaluate names e (onValue next fun o => next o.handOver)
    | .fail none _ => next (.error (codeFailure "RuntimeError" "No active exception to reraise"))
    | .fail (some e) cause => raiseFailure names e cause next
    | .importModule m =>
      match names.importModule m with
      | .ok names => runInstructions names rest next
      | .error f => next (.error f)
    | .importFrom level path imported =>
      match names.importFrom level path imported with
      | .ok names => runInstructions names rest next
      | .error f => next (.error f)

/-- The names that an instruction gives a meaning. -/
def Instruction.assigned : Instruction → List String
  | .assign ns _ => ns
  | .importModule m => [m.binding.1]
  | .importFrom _ _ imported => imported.map Imported.boundName
  | _ => []

/-- The activity of a list of instructions, which are the body of a function. -/
def activityOf (instructions : List Instruction) : Activity :=
  runInstructions { assigned := instructions.flatMap Instruction.assigned } instructions .finish

end AgentScript.Sandbox
