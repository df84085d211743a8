import AgentScript.Text.Blank
import AgentScript.Text.Quoted

set_option autoImplicit false

/-! # Failures

Why an operation stopped. A failure is kept as its cause; `Failure.message` is the only place that
words it, and `Failure.kind` names its kind for a description of the form `kind: message`. -/

namespace AgentScript

/-- What is wrong with a script as a whole. -/
inductive ScriptFault where
  | requestFailed (reply : String)
  | registrationWithoutInstruction

/-- Why a command could not be carried out. -/
inductive CommandFault where
  | unknown (name : String)
  | noteWithoutTitle
  | noteNotFound (title : String)
  | updateIncomplete
  | updateNotFound (title : String)
  | deletionNotFound (title : String)
  | planIncomplete
  | taskNotFound (task : String)
  | promptMissing
  | generationFailed (reply : String)
  | agentUndefined (agent : String)
  | agentFailed (agent reply : String)
  | fileIncomplete
  | fileNotFound (name : String)
  | engineMissing
  | bootFailed (reason : String)
  | codeFailed (reason : String)

/-- The two nested forms of structured text. -/
inductive Container where
  | array
  | object

/-- What is wrong with code before any of it runs: the kind and the wording of the fault, the number
    and the text of the line where it was noticed, and the columns it points at. The text is unknown
    if the line is not looked up. -/
structure Malformed where
  file : String := "<unknown>"
  kind : String
  wording : String
  line : Nat
  text : Option (List Char)
  column : Option Nat
  width : Nat := 1

/-- Why an operation stopped. -/
inductive Failure where
  | script (fault : ScriptFault)
  | command (name : String) (fault : CommandFault)
  /-- Code failed inside its sandbox. -/
  | sandbox (detail : String)
  /-- An integer has too many digits to be written out. -/
  | integerTooLong
  /-- A numeral has too many digits to be read. -/
  | numeralTooLong (digits : Nat)
  /-- A text of digits writes no number. -/
  | badNumeral (text : String)
  | nestedTooDeep (container : Container)
  | malformed (fault : Malformed)
  | unboundName (name : String)
  | lineOutOfRange
  /-- A path that should lead to a file leads to a folder. -/
  | isFolder (path : String)
  /-- A path has a name in it that no file can have. -/
  | nameTooLong (path : String)
  /-- A collaborator failed with a kind and perhaps a message of its own. -/
  | raised (kind : String) (detail : Option String)

/-- How many digits an integer may have where it is written or read as text. -/
def digitLimit : Nat := 4300

/-! ## Wording -/

/-- What is wrong with a script, in words. -/
def ScriptFault.message : ScriptFault → String
  | .requestFailed reply => "AI Request Failed: " ++ reply
  | .registrationWithoutInstruction => "setID called without a preceding createAI command."

/-- Why a command could not be carried out, in words. -/
def CommandFault.message : CommandFault → String
  | .unknown name => "Unknown Command: " ++ name
  | .noteWithoutTitle =>
    "createNote missing 'title'. Usage: createNote(title=\"...\", content=\"...\")"
  | .noteNotFound title => "Note not found: \"" ++ title ++ "\""
  | .updateIncomplete => "updateNote requires 'title' and 'content'"
  | .updateNotFound title => "Cannot update note. Note not found: \"" ++ title ++ "\""
  | .deletionNotFound title => "Cannot delete note. Note not found: \"" ++ title ++ "\""
  | .planIncomplete => "updatePlan requires 'task' and 'status'"
  | .taskNotFound task => "Task not found in plan: \"" ++ task ++ "\""
  | .promptMissing => "runAI requires a prompt."
  | .generationFailed reply => "AI Generation Error: " ++ reply
  | .agentUndefined agent => "Agent '" ++ agent ++ "' not defined. Use createAI then setID."
  | .agentFailed agent reply => "Agent '" ++ agent ++ "' Failed: " ++ reply
  | .fileIncomplete => "saveFile requires 'name' and 'url'"
  | .fileNotFound name => "File '" ++ name ++ "' not found."
  | .engineMissing => "Python engine not loaded. Check your sandbox configuration."
  | .bootFailed reason => "Failed to load Python Engine: " ++ reason
  | .codeFailed reason => "Python Logic Error:\n" ++ reason

/-- The mark in front of the detail of a sandbox failure. -/
def sandboxMark : String := "PythonError:"

/-- The beginning of every complaint about the number of digits. -/
def digitLimitText : String :=
  "Exceeds the limit (4300 digits) for integer string conversion"

/-- The kinds that speak of malformed code. -/
def isMalformedCode (kind : String) : Bool :=
  kind == "SyntaxError" || kind == "IndentationError" || kind == "TabError"

/-- A number in decimal digits. -/
def decimalText (n : Nat) : String :=
  String.ofList (Nat.toDigits 10 n)

/-- The wording of a fault in code and where it is. -/
def Malformed.message (m : Malformed) : String :=
  m.wording ++ " (" ++ m.file ++ ", line " ++ decimalText m.line ++ ")"

/-- A line without its indentation, and a mark under the columns that a fault points at; a column
    inside the indentation is not marked. -/
def Malformed.excerpt (m : Malformed) (text : List Char) : String :=
  let shown := text.dropWhile fun c => c == ' ' || c == '\x0c'
  let indent := text.length - shown.length
  let pointer := match m.column.filter (indent ≤ ·) with
    | none => ""
    | some column =>
      let under := (shown.take (column - indent)).map fun c => if Text.isBlank c then c else ' '
      "    " ++ String.ofList under ++ String.ofList (List.replicate m.width '^') ++ "\n"
  "    " ++ String.ofList shown ++ "\n" ++ pointer

/-- A fault in code with the line it is in. -/
def Malformed.describe (m : Malformed) : String :=
  "  File \"" ++ m.file ++ "\", line " ++ decimalText m.line ++ "\n" ++ m.text.elim "" m.excerpt ++
    m.kind ++ ": " ++ m.wording

/-- The text of a failure. -/
def Failure.message : Failure → String
  | .script fault => fault.message
  | .command _ fault => fault.message
  | .sandbox detail => sandboxMark ++ " " ++ detail
  | .integerTooLong =>
    digitLimitText ++ "; use sys.set_int_max_str_digits() to increase the limit"
  | .numeralTooLong digits =>
    digitLimitText ++ ": value has " ++ decimalText digits ++
      " digits; use sys.set_int_max_str_digits() to increase the limit"
  | .badNumeral text =>
    "invalid literal for int() with base 10: " ++
      String.ofList ((Text.quoteChars text.toList).take 200)
  | .nestedTooDeep .array =>
    "maximum recursion depth exceeded while decoding a JSON array from a unicode string"
  | .nestedTooDeep .object =>
    "maximum recursion depth exceeded while decoding a JSON object from a unicode string"
  | .malformed fault => fault.message
  | .unboundName name => Text.quoted name
  | .lineOutOfRange => "list index out of range"
  | .isFolder path => "[Errno 21] Is a directory: " ++ Text.quoted path
  | .nameTooLong path => "[Errno 36] File name too long: " ++ Text.quoted path
  | .raised kind none => if isMalformedCode kind then "None" else ""
  | .raised _ (some detail) => detail

/-- The text of a failure as shown to a user, who is told at least that there was one. -/
def Failure.notice (f : Failure) : String :=
  if f.message = "" then "Unknown error occurred." else f.message

/-- The kind of a failure; the kinds of this language carry the name of their home. -/
def Failure.kind : Failure → String
  | .script _ => "flowscript.errors.FlowScriptError"
  | .command _ _ => "flowscript.errors.CommandError"
  | .sandbox _ => "flowscript.errors.SandboxError"
  | .integerTooLong | .numeralTooLong _ | .badNumeral _ => "ValueError"
  | .nestedTooDeep _ => "RecursionError"
  | .malformed fault => fault.kind
  | .unboundName _ => "KeyError"
  | .lineOutOfRange => "IndexError"
  | .isFolder _ => "IsADirectoryError"
  | .nameTooLong _ => "OSError"
  | .raised kind _ => kind

/-- The message part of a description; malformed code is never described by nothing. -/
def Failure.explanation (f : Failure) : String :=
  match f with
  | .raised kind detail =>
    if isMalformedCode kind then
      match detail with
      | none | some "" => "<no detail available>"
      | some text => text
    else f.message
  | _ => f.message

/-- The kind of a failure and, if there is one, its message, without blanks at either end. A fault
    in code is described together with its line. -/
def Failure.describe (f : Failure) : String :=
  Text.strip <|
    match f with
    | .malformed fault => fault.describe
    | _ => if f.explanation = "" then f.kind else f.kind ++ ": " ++ f.explanation

/-! ## Making failures by kind -/

/-- Something that a failure is made from: its text, and the literal that writes it. -/
structure Particular where
  text : String
  literal : String

/-- A text as something that a failure is made from. -/
def Particular.ofText (text : String) : Particular :=
  ⟨text, Text.quoted text⟩

/-- The kind that a name stands for. -/
def canonicalKind (name : String) : String :=
  if name == "IOError" || name == "EnvironmentError" then "OSError" else name

/-- The wording for a kind that must be made from a fixed number of particulars, with that number.
    -/
def requiredParticulars? (kind : String) : Option (String × Nat) :=
  match kind with
  | "UnicodeDecodeError" | "UnicodeEncodeError" => some ("function", 5)
  | "UnicodeTranslateError" => some ("function", 4)
  | "ExceptionGroup" | "BaseExceptionGroup" => some ("BaseExceptionGroup.__new__()", 2)
  | _ => none

/-- What a failure of a kind says that is made from some particulars: one of them as a text, several
    as a tuple. A missing key is always shown as a literal. -/
def detailOf (kind : String) : List Particular → Option String
  | [] => none
  | [p] => some (if kind == "KeyError" then p.literal else p.text)
  | several => some ("(" ++ String.intercalate ", " (several.map Particular.literal) ++ ")")

/-- Make a failure of a kind. It fails itself if the number of particulars is wrong. -/
def Failure.make (name : String) (particulars : List Particular) : Except Failure Failure :=
  let kind := canonicalKind name
  match requiredParticulars? kind with
  | some (maker, n) =>
    if particulars.length = n then .ok (.raised kind (detailOf kind particulars))
    else
      .error (.raised "TypeError" (some (maker ++ " takes exactly " ++ decimalText n ++
        " arguments (" ++ decimalText particulars.length ++ " given)")))
  | none => .ok (.raised kind (detailOf kind particulars))

/-- A failure as it reaches those who wait for the work that it ended. The signal that nothing is
    left to iterate would be taken for the end of the work itself, so it is reported as a failure of
    the work. -/
def Failure.awaited (f : Failure) : Failure :=
  if f.kind == "StopIteration" then .raised "RuntimeError" (some "coroutine raised StopIteration")
  else f

/-! ## Interrupts -/

/-- The kinds that end the whole program rather than one operation. -/
def interruptKinds : List String :=
  ["KeyboardInterrupt", "SystemExit", "GeneratorExit", "BaseException",
    "asyncio.exceptions.CancelledError"]

/-- Whether a failure is one that a run reports, rather than one that ends the program. -/
def Failure.isOrdinary : Failure → Bool
  | .raised kind _ => !interruptKinds.contains kind
  | _ => true

end AgentScript
