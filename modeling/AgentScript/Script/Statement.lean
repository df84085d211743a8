import AgentScript.Script.Blocks
import AgentScript.Text.Word

set_option autoImplicit false

/-! # Statements

What a line of a block begins. A line is a statement if its front has one of six forms; each part
of a form takes the longest match that it can, so that a line has at most one of them. Every other
line is a remark. -/

namespace AgentScript.Script

/-- What a line begins. -/
inductive Statement where
  | overrideStart
  | agentCall (agent : String)
  | commandCall (name : String)
  | getOutput (name : Option String)
  | setId (agent : Option String)
  | expand

/-- Matches the opening parenthesis of a call, blanks before it included. -/
def matchCall : Text.Matcher := fun s =>
  match s.dropWhile Text.isBlank with
  | '(' :: rest => some rest
  | _ => none

/-- The run of word characters at the front of a text and the rest, if the run is not empty. -/
def readName (s : List Char) : Option (String × List Char) :=
  match s.takeWhile Text.isWordChar with
  | [] => none
  | name => some (String.ofList name, s.dropWhile Text.isWordChar)

/-- The name of a call whose parenthesis follows. -/
def readCall (s : List Char) : Option String := do
  let (name, rest) ← readName s
  let _ ← matchCall rest
  return name

/-- The text between the quotes at the front of `s`, if it is not empty. -/
def leadingQuoted : List Char → Option String
  | '"' :: rest =>
    match rest.takeWhile (· != '"'), rest.dropWhile (· != '"') with
    | c :: name, '"' :: _ => some (String.ofList (c :: name))
    | _, _ => none
  | _ => none

/-- The words before the agent of a call. -/
def agentPhrase : Text.Phrase := ⟨"runai", "as"⟩

/-- The words before the name that the last result is kept under. -/
def outputPhrase : Text.Phrase := ⟨"getoutput", "as"⟩

/-- The words before the name of a new agent. -/
def identityPhrase : Text.Phrase := ⟨"setid", "as"⟩

/-- The words that ask for expansion. -/
def expandPhrase : Text.Phrase := ⟨"flow", "expand"⟩

/-- What follows a phrase and the blanks after it. -/
def afterPhrase (p : Text.Phrase) (s : List Char) : Option (List Char) :=
  (p.match? s).bind Text.matchBlanks

/-- What follows a phrase and the blanks after it, if that is anything. -/
def argumentOf (p : Text.Phrase) (s : List Char) : Option (List Char) :=
  (afterPhrase p s).filter fun rest => !rest.isEmpty

/-- The statement that a line begins. -/
def Statement.ofLine (line : String) : Option Statement :=
  let s := line.toList
  if (BlockName.overridePrompt.opening.match? s).isSome then some .overrideStart
  else if (expandPhrase.match? s).isSome then some .expand
  else
    match (afterPhrase agentPhrase s).bind readCall with
    | some agent => some (.agentCall agent)
    | none =>
      match readCall s with
      | some name => some (.commandCall name)
      | none =>
        match argumentOf outputPhrase s with
        | some rest => some (.getOutput (leadingQuoted rest))
        | none => (argumentOf identityPhrase s).map fun rest => .setId (leadingQuoted rest)

/-- Whether a line, blanks in front of it aside, ends an override. -/
def isOverrideEnd (line : String) : Bool :=
  (BlockName.overridePrompt.closing.match? (Text.stripChars line.toList)).isSome

/-- The statement as a record. -/
def Statement.shown : Statement → String
  | .overrideStart => Text.record "OverrideStart" []
  | .agentCall agent => Text.record "AgentCall" [("agent_id", Text.quoted agent)]
  | .commandCall name => Text.record "CommandCall" [("name", Text.quoted name)]
  | .getOutput name => Text.record "GetOutput" [("var", Text.quoted? name)]
  | .setId agent => Text.record "SetId" [("agent_id", Text.quoted? agent)]
  | .expand => Text.record "FlowExpand" []

end AgentScript.Script
