import AgentScript.Command.Basic
import AgentScript.Failure
import AgentScript.Script.Parameters

set_option autoImplicit false

/-! # Reading commands

Every command reads its arguments in one of three ways: as a single positional text, as named
parameters, or, for code, as it stands. -/

namespace AgentScript.Command

/-- The marks that begin the list of inputs after the code of `execute`. -/
def inputMarks : List String := [", inputs=", ",inputs="]

/-- The code of `execute` without the list of inputs after it. The marks are tried in turn, and the
    first that occurs ends the code. -/
def codeBeforeInputs (text : String) : String :=
  ((inputMarks.findSome? fun mark => Text.cutAt mark text).map Prod.fst).getD text

/-- A text, if it is not empty. -/
def nonempty? (text : Option String) : Option String :=
  text.filter (· != "")

theorem nonempty?_of_ne {text : String} (h : text ≠ "") : nonempty? (some text) = some text := by
  simp [nonempty?, h]

/-- The prompt of `runAI`: the parameter of that name, or else the positional text. -/
def promptOf (arguments : String) : String :=
  (nonempty? ((Script.namedParameters arguments).get? "prompt")).getD (Script.stripQuotes arguments)

/-- The call of an agent. -/
def ofAgentCall (agent arguments : String) : Command :=
  .runAgent agent (Script.stripQuotes arguments)

/-- The command that a name and the text of its arguments make. -/
def ofCall (name arguments : String) : Except Failure Command :=
  let text := Script.stripQuotes arguments
  let parameter := (Script.namedParameters arguments).get?
  match name with
  | "log" => .ok (.log text)
  | "createNote" => .ok (.createNote (parameter "title") (parameter "content"))
  | "getNote" => .ok (.getNote text)
  | "updateNote" => .ok (.updateNote (parameter "title") (parameter "content"))
  | "deleteNote" => .ok (.deleteNote text)
  | "updatePlan" => .ok (.updatePlan (parameter "task") (parameter "status"))
  | "execute" => .ok (.execute (codeBeforeInputs arguments))
  | "createAI" => .ok (.createAI text)
  | "runAI" => .ok (.runAI (promptOf arguments))
  | "saveFile" => .ok (.saveFile (parameter "name") (parameter "url"))
  | "deleteFile" => .ok (.deleteFile text)
  | "getFile" => .ok (.getFile text)
  | "changeMusic" => .ok (.changeMusic ((nonempty? (parameter "mood")).getD "calm"))
  | _ => .error (.command name (.unknown name))

end AgentScript.Command
