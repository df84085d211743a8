import AgentScript.Failure
import AgentScript.Value.Literal

set_option autoImplicit false

/-! # The objects of code

Code handles values, and besides them things that never leave it: the interface to the run, its
features, modules, kinds of failure and failures, and other functions and types. -/

namespace AgentScript.Sandbox

/-- What the interface offers. -/
inductive Feature where
  | read
  /-- Setting an output, under the name by which it is called. -/
  | write (name : String)

/-- Something that a name of code can stand for. -/
inductive Object where
  | value (v : Value)
  /-- The interface to the run. -/
  | interface
  | feature (f : Feature)
  /-- The module at a path. -/
  | module (path : String)
  | kind (name : String)
  | failure (f : Failure)
  | type (name : String)
  /-- Something else, by the name of its type. -/
  | other (title : String)

/-- The type of the interface. -/
def interfaceType : String := "FlowScriptInterface"

/-- A failure of code, by its kind and message. -/
def codeFailure (kind message : String) : Failure :=
  .raised kind (some message)

/-- The kinds of failure that code can name. -/
def failureKinds : List String :=
  ["BaseException", "BaseExceptionGroup", "KeyboardInterrupt", "SystemExit", "GeneratorExit",
    "Exception", "ArithmeticError", "AssertionError", "AttributeError", "BlockingIOError",
    "BrokenPipeError", "BufferError", "BytesWarning", "ChildProcessError", "ConnectionAbortedError",
    "ConnectionError", "ConnectionRefusedError", "ConnectionResetError", "DeprecationWarning",
    "EOFError", "EncodingWarning", "EnvironmentError", "ExceptionGroup", "FileExistsError",
    "FileNotFoundError", "FloatingPointError", "FutureWarning", "IOError", "ImportError",
    "ImportWarning", "IndentationError", "IndexError", "InterruptedError", "IsADirectoryError",
    "KeyError", "LookupError", "MemoryError", "ModuleNotFoundError", "NameError",
    "NotADirectoryError", "NotImplementedError", "OSError", "OverflowError",
    "PendingDeprecationWarning", "PermissionError", "ProcessLookupError", "RecursionError",
    "ReferenceError", "ResourceWarning", "RuntimeError", "RuntimeWarning", "StopAsyncIteration",
    "StopIteration", "SyntaxError", "SyntaxWarning", "SystemError", "TabError", "TimeoutError",
    "TypeError", "UnboundLocalError", "UnicodeDecodeError", "UnicodeEncodeError", "UnicodeError",
    "UnicodeTranslateError", "UnicodeWarning", "UserWarning", "ValueError", "Warning",
    "ZeroDivisionError"]

/-- The types that code can name. -/
def typeNames : List String :=
  ["bool", "bytearray", "bytes", "classmethod", "complex", "dict", "enumerate", "filter", "float",
    "frozenset", "int", "list", "map", "memoryview", "object", "property", "range", "reversed",
    "set", "slice", "staticmethod", "str", "super", "tuple", "type", "zip"]

/-- The functions that code can name. -/
def functionNames : List String :=
  ["__build_class__", "__import__", "abs", "aiter", "all", "anext", "any", "ascii", "bin",
    "breakpoint", "callable", "chr", "compile", "delattr", "dir", "divmod", "eval", "exec",
    "format", "getattr", "globals", "hasattr", "hash", "hex", "id", "input", "isinstance",
    "issubclass", "iter", "len", "locals", "max", "min", "next", "oct", "open", "ord", "pow", "print", "repr",
    "round", "setattr", "sorted", "sum", "vars"]

/-- The other things that code can name, each with the name of its type. -/
def sundryNames : List (String × String) :=
  [("main", "function"), ("Ellipsis", "ellipsis"), ("NotImplemented", "NotImplementedType"),
    ("copyright", "_Printer"), ("credits", "_Printer"), ("license", "_Printer"),
    ("help", "_Helper"), ("exit", "Quitter"), ("quit", "Quitter"), ("__builtins__", "module"),
    ("__spec__", "ModuleSpec"), ("__loader__", "type"), ("__doc__", "str")]

/-- What a name stands for that code has not given a meaning of its own. -/
def predefined? (name : String) : Option Object :=
  match name with
  | "fs" => some .interface
  | "__name__" => some (.value (.str "__flowscript__"))
  | "__package__" => some (.value (.str ""))
  | "__debug__" => some (.value (.bool true))
  | _ =>
    if failureKinds.contains name then some (.kind (canonicalKind name))
    else if typeNames.contains name then some (.type name)
    else if functionNames.contains name then some (.other "builtin_function_or_method")
    else (sundryNames.lookup name).map .other

/-! ## Types -/

/-- How failures call the type of a value. -/
def typeName : Value → String
  | .null => "NoneType"
  | .bool _ => "bool"
  | .int _ => "int"
  | .float _ => "float"
  | .str _ => "str"
  | .bytes _ => "bytes"
  | .list _ => "list"
  | .tuple _ => "tuple"
  | .dict _ => "dict"

/-- How failures call the type of an object. -/
def Object.typeName : Object → String
  | .value v => Sandbox.typeName v
  | .interface => interfaceType
  | .feature _ => "method"
  | .module _ => "module"
  | .kind _ | .type _ => "type"
  | .failure f => f.kind
  | .other title => title

/-- Whether a value can be a key. -/
def isKey : Value → Bool
  | .list _ | .dict _ => false
  | .tuple vs => keysOnly vs
  | _ => true
where
  keysOnly : List Value → Bool
    | [] => true
    | v :: rest => isKey v && keysOnly rest

/-- The type that keeps a value from being a key. -/
def obstacle (v : Value) : String :=
  match v with
  | .tuple vs => firstObstacle vs
  | _ => typeName v
where
  firstObstacle : List Value → String
    | [] => "tuple"
    | v :: rest => if isKey v then firstObstacle rest else obstacle v

/-- The failure of using a value as a key that cannot be one. -/
def notAKey (v : Value) : Failure :=
  codeFailure "TypeError" ("unhashable type: '" ++ obstacle v ++ "'")

/-! ## Operators -/

/-- The failure of an operator on operands that it is not for. -/
def operandFailure (operator : String) (a b : Object) : Failure :=
  codeFailure "TypeError"
    ("unsupported operand type(s) for " ++ operator ++ ": '" ++ a.typeName ++ "' and '" ++
      b.typeName ++ "'")

/-- The failure of putting an object behind something of another type. -/
def concatFailure (type : String) (b : Object) : Failure :=
  codeFailure "TypeError"
    ("can only concatenate " ++ type ++ " (not \"" ++ b.typeName ++ "\") to " ++ type)

/-- A number as a floating-point one. -/
def toFloat : Int ⊕ Float → Float
  | .inl n => Float.ofInt n
  | .inr x => x

/-- The number that an object is. -/
def Object.number? : Object → Option (Int ⊕ Float)
  | .value v => v.number?
  | _ => none

/-- The sum of two objects. -/
def Object.add (a b : Object) : Except Failure Object :=
  match a, b with
  | .value (.str s), .value (.str t) => .ok (.value (.str (s ++ t)))
  | .value (.str _), _ => .error (concatFailure "str" b)
  | .value (.list s), .value (.list t) => .ok (.value (.list (s ++ t)))
  | .value (.list _), _ => .error (concatFailure "list" b)
  | .value (.tuple s), .value (.tuple t) => .ok (.value (.tuple (s ++ t)))
  | .value (.tuple _), _ => .error (concatFailure "tuple" b)
  | .value (.bytes s), .value (.bytes t) => .ok (.value (.bytes (s ++ t)))
  | .value (.bytes _), _ =>
    .error (codeFailure "TypeError" ("can't concat " ++ b.typeName ++ " to bytes"))
  | _, _ =>
    match a.number?, b.number? with
    | some (.inl m), some (.inl n) => .ok (.value (.int (m + n)))
    | some m, some n => .ok (.value (.float (toFloat m + toFloat n)))
    | _, _ => .error (operandFailure "+" a b)

/-- The quotient of two objects. -/
def Object.divide (a b : Object) : Except Failure Object :=
  match a.number?, b.number? with
  | some (.inl m), some (.inl n) =>
    if n = 0 then .error (codeFailure "ZeroDivisionError" "division by zero")
    else .ok (.value (.float (Float.ofInt m / Float.ofInt n)))
  | some m, some n =>
    if toFloat n == 0.0 then .error (codeFailure "ZeroDivisionError" "float division by zero")
    else .ok (.value (.float (toFloat m / toFloat n)))
  | _, _ => .error (operandFailure "/" a b)

/-- An object with a sign in front. -/
def Object.signed (negative : Bool) (a : Object) : Except Failure Object :=
  match a.number? with
  | some (.inl n) => .ok (.value (.int (if negative then -n else n)))
  | some (.inr x) => .ok (.value (.float (if negative then -x else x)))
  | none =>
    .error (codeFailure "TypeError"
      ("bad operand type for unary " ++ (if negative then "-" else "+") ++ ": '" ++ a.typeName ++
        "'"))

/-! ## Collecting objects -/

/-- The values that objects are, if all of them are values. -/
def values? (objects : List Object) : Option (List Value) :=
  objects.mapM fun o => match o with | .value v => some v | _ => none

/-- The list of some objects. -/
def Object.ofList (objects : List Object) : Object :=
  (values? objects).elim (.other "list") fun vs => .value (.list vs)

/-- The tuple of some objects. -/
def Object.ofTuple (objects : List Object) : Object :=
  (values? objects).elim (.other "tuple") fun vs => .value (.tuple vs)

/-- The dictionary of some entries, whose keys must be fit for it. -/
def Object.ofEntries (entries : List (Object × Object)) : Except Failure Object :=
  match values? (entries.map Prod.fst) with
  | none => .ok (.other "dict")
  | some keys =>
    match keys.find? fun k => !isKey k with
    | some k => .error (notAKey k)
    | none =>
      .ok ((values? (entries.map Prod.snd)).elim (.other "dict") fun vs =>
        .value (Value.dictOf (keys.zip vs)))

/-! ## Failures as objects -/

/-- An object as something that a failure is made from. -/
def Object.particular : Object → Particular
  | .value (.str s) => .ofText s
  | .value v =>
    match v.literal with
    | .ok text => ⟨text, text⟩
    | .error _ => ⟨"<exception str() failed>", "<exception str() failed>"⟩
  | o => ⟨o.typeName, o.typeName⟩

/-- The failure that raising an object comes to. -/
def Object.raised : Object → Failure
  | .kind name =>
    match Failure.make name [] with
    | .ok f | .error f => f
  | .failure f => f
  | _ => codeFailure "TypeError" "exceptions must derive from BaseException"

/-- Whether an object can be given as the cause of a failure. -/
def Object.isCause : Object → Bool
  | .kind _ | .failure _ | .value .null => true
  | _ => false

end AgentScript.Sandbox
