import AgentScript.Text.Lowercase
import AgentScript.Text.Search

set_option autoImplicit false

/-! # Workspaces

The workspace is what scripts act on: notes, the steps of a plan, files, chat messages, the log of
actions and the tracks that were played. Everything is kept in the order in which it came. -/

namespace AgentScript

/-- A note. Titles need not be unique; the oldest note of a title is the one that is meant. -/
structure Note where
  title : String
  content : String
deriving DecidableEq

/-- A step of the plan. -/
structure PlanStep where
  title : String
  description : String := ""
  status : String := "pending"
deriving DecidableEq

/-- A file that a user can open. -/
structure UserFile where
  name : String
  url : String
  type : String := "binary"
  description : Option String := none
deriving DecidableEq

/-- A message of the chat, as text and as markup. -/
structure ChatMessage where
  role : String
  type : String
  text : String
  displayHtml : String := ""
deriving DecidableEq

/-- Everything that scripts act on. -/
structure Workspace where
  notes : List Note := []
  plan : List PlanStep := []
  files : List UserFile := []
  messages : List ChatMessage := []
  actionLog : List String := []
  playedTracks : List String := []

namespace Workspace

/-- A workspace with nothing in it but the steps of a plan. -/
def ofPlan (titles : List String) : Workspace :=
  { plan := titles.map fun title => { title := title } }

/-! ## Notes -/

/-- The oldest note of a title. -/
def findNote (w : Workspace) (title : String) : Option Note :=
  w.notes.find? fun n => n.title == title

/-- Write a further note. -/
def addNote (w : Workspace) (title content : String) : Workspace :=
  { w with notes := w.notes ++ [⟨title, content⟩] }

/-- The content of the oldest note of a title. -/
def noteContent (w : Workspace) (title : String) : Option String :=
  (w.findNote title).map Note.content

/-- Change the first element that satisfies `p`. -/
def changeFirst {α : Type} (p : α → Bool) (f : α → α) : List α → List α
  | [] => []
  | a :: rest => if p a then f a :: rest else a :: changeFirst p f rest

/-- Give the oldest note of a title a new content. The answer tells whether there is one. -/
def updateNote (w : Workspace) (title content : String) : Bool × Workspace :=
  let matching (n : Note) := n.title == title
  (w.notes.any matching,
    { w with notes := changeFirst matching (fun n => { n with content := content }) w.notes })

/-- Remove the oldest note of a title. The answer tells whether there is one. -/
def deleteNote (w : Workspace) (title : String) : Bool × Workspace :=
  let matching (n : Note) := n.title == title
  (w.notes.any matching, { w with notes := w.notes.eraseP matching })

/-! ## The plan -/

/-- Whether a step's title contains the name of a task, in any case. -/
def matchesTask (task : String) (s : PlanStep) : Bool :=
  Text.occursIn (Text.lower task) (Text.lower s.title)

/-- The first step that a task names. -/
def findStep (w : Workspace) (task : String) : Option PlanStep :=
  w.plan.find? (matchesTask task)

/-- Give the first step that a task names a new status. The answer tells whether there is one. -/
def updatePlan (w : Workspace) (task status : String) : Bool × Workspace :=
  (w.plan.any (matchesTask task),
    { w with plan := changeFirst (matchesTask task) (fun s => { s with status := status }) w.plan })

/-! ## Files -/

/-- The oldest file of a name. -/
def findFile (w : Workspace) (name : String) : Option UserFile :=
  w.files.find? fun f => f.name == name

/-- Keep a further file, also if there is one of its name. -/
def addFile (w : Workspace) (f : UserFile) : Workspace :=
  { w with files := w.files ++ [f] }

/-- Remove all files of a name. The answer tells how many there were. -/
def removeFiles (w : Workspace) (name : String) : Nat × Workspace :=
  let named (f : UserFile) := f.name == name
  (w.files.countP named, { w with files := w.files.filter fun f => !named f })

/-! ## Messages, actions and music -/

/-- Post a message. -/
def addMessage (w : Workspace) (m : ChatMessage) : Workspace :=
  { w with messages := w.messages ++ [m] }

/-- Add a line to the log of actions. -/
def logAction (w : Workspace) (message : String) : Workspace :=
  { w with actionLog := w.actionLog ++ [message] }

/-- Play a track. -/
def playMusic (w : Workspace) (track : String) : Workspace :=
  { w with playedTracks := w.playedTracks ++ [track] }

/-- The track that was played last. -/
def currentTrack (w : Workspace) : Option String :=
  w.playedTracks.getLast?

end Workspace

end AgentScript
