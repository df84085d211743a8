import AgentScript.Text.Record

set_option autoImplicit false

/-! # Commands

What a script can ask for. The arguments of a command are kept as written; variables in them are
resolved when the command runs. -/

namespace AgentScript

/-- A command with its arguments; named arguments may be missing. -/
inductive Command where
  | log (message : String)
  | createNote (title content : Option String)
  | getNote (title : String)
  | updateNote (title content : Option String)
  | deleteNote (title : String)
  | updatePlan (task status : Option String)
  | execute (code : String)
  | createAI (instruction : String)
  | runAI (prompt : String)
  | runAgent (agent prompt : String)
  | saveFile (name url : Option String)
  | deleteFile (name : String)
  | getFile (name : String)
  | changeMusic (mood : String)
  /-- A command without a name, which nothing can carry out. -/
  | blank
deriving DecidableEq

namespace Command

/-- The name by which failures mention a command. -/
def name : Command → String
  | .log _ => "log"
  | .createNote _ _ => "createNote"
  | .getNote _ => "getNote"
  | .updateNote _ _ => "updateNote"
  | .deleteNote _ => "deleteNote"
  | .updatePlan _ _ => "updatePlan"
  | .execute _ => "execute"
  | .createAI _ => "createAI"
  | .runAI _ => "runAI"
  | .runAgent _ _ => "runAI_Agent"
  | .saveFile _ _ => "saveFile"
  | .deleteFile _ => "deleteFile"
  | .getFile _ => "getFile"
  | .changeMusic _ => "changeMusic"
  | .blank => ""

/-- The name of a command's record. -/
def recordName : Command → String
  | .log _ => "Log"
  | .createNote _ _ => "CreateNote"
  | .getNote _ => "GetNote"
  | .updateNote _ _ => "UpdateNote"
  | .deleteNote _ => "DeleteNote"
  | .updatePlan _ _ => "UpdatePlan"
  | .execute _ => "Execute"
  | .createAI _ => "CreateAI"
  | .runAI _ => "RunAI"
  | .runAgent _ _ => "RunAgent"
  | .saveFile _ _ => "SaveFile"
  | .deleteFile _ => "DeleteFile"
  | .getFile _ => "GetFile"
  | .changeMusic _ => "ChangeMusic"
  | .blank => "Command"

/-- The fields of a command's record. -/
def fields : Command → List (String × Option String)
  | .log message => [("message", message)]
  | .createNote title content | .updateNote title content =>
    [("title", title), ("content", content)]
  | .getNote title | .deleteNote title => [("title", title)]
  | .updatePlan task status => [("task", task), ("status", status)]
  | .execute code => [("code", code)]
  | .createAI instruction => [("instruction", instruction)]
  | .runAI prompt => [("prompt", prompt)]
  | .runAgent agent prompt => [("agent_id", agent), ("prompt", prompt)]
  | .saveFile name url => [("file_name", name), ("url", url)]
  | .deleteFile name | .getFile name => [("file_name", name)]
  | .changeMusic mood => [("mood", mood)]
  | .blank => []

/-- The command as a record. -/
def shown (c : Command) : String :=
  Text.record c.recordName (c.fields.map fun f => (f.1, Text.quoted? f.2))

end Command

end AgentScript
