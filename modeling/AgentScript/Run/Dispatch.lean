import AgentScript.Command.Mood
import AgentScript.Command.Reader
import AgentScript.Run.Engine

set_option autoImplicit false

/-! # Carrying out commands

Every command resolves its arguments, checks them, asks the collaborator it needs, and writes to the
run only what it owns. -/

namespace AgentScript.RunM

/-- Stop unless a condition holds. -/
def require (name : String) (holds : Bool) (fault : CommandFault) : RunM Unit :=
  if holds then pure () else failCommand name fault

/-- Carry out a command. -/
def dispatch (c : Command) : RunM Unit := do
  trace 1 ("command " ++ c.shown)
  match c with
  | .log message => logAction (← resolve message)
  | .createNote title content =>
    let title ← resolve? title
    require c.name (title != "") .noteWithoutTitle
    request (.addNote title (← resolve? content))
  | .getNote title =>
    let title ← resolve title
    match ← request (.noteContent title) with
    | some content => setResult (.str content)
    | none => failCommand c.name (.noteNotFound title)
  | .updateNote title content =>
    let title ← resolve? title
    let content ← resolve? content
    require c.name (title != "" && content != "") .updateIncomplete
    require c.name (← request (.updateNote title content)) (.updateNotFound title)
  | .deleteNote title =>
    let title ← resolve title
    require c.name (← request (.deleteNote title)) (.deletionNotFound title)
  | .updatePlan task status =>
    let task ← resolve? task
    let status ← resolve? status
    require c.name (task != "" && status != "") .planIncomplete
    require c.name (← request (.updatePlan task status)) (.taskNotFound task)
  | .execute code => execute code
  | .createAI instruction =>
    let instruction ← resolve instruction
    modify fun run => { run with pending := some instruction }
  | .runAI prompt =>
    require c.name (prompt != "") .promptMissing
    let prompt ← resolve prompt
    setResult (.str (← generate prompt none fun reply => .command c.name (.generationFailed reply)))
  | .runAgent agent prompt =>
    let prompt ← resolve prompt
    match Command.nonempty? ((← get).agents.get? agent) with
    | none => failCommand c.name (.agentUndefined agent)
    | some instruction =>
      logAction ("Agent " ++ agent ++ " is thinking...")
      setResult (.str (← generate prompt instruction fun reply =>
        .command c.name (.agentFailed agent reply)))
  | .saveFile name url =>
    let name ← resolve? name
    let url ← resolve? url
    require c.name (name != "" && url != "") .fileIncomplete
    request (.addFile { name := name, url := url })
    setResult (.str "File Saved")
  | .deleteFile name =>
    request (.removeFiles (← resolve name))
    setResult (.str "File Deleted")
  | .getFile name =>
    let name ← resolve name
    match ← request (.findFile name) with
    | some file => setResult (.str file.url)
    | none => failCommand c.name (.fileNotFound name)
  | .changeMusic mood => request (.playMusic (Command.trackForMood (← resolve mood)))
  | .blank => failCommand c.name (.unknown c.name)

/-- Carry out the call of a command by name. -/
def call (name arguments : String) : RunM Unit := do
  dispatch (← lift (Command.ofCall name arguments))

end AgentScript.RunM
