import AgentScript.Interleaving
import AgentScript.Run.Script

set_option autoImplicit false

/-! # Sessions

A session is a series of runs in one world: whole scripts, one after the other or side by side, or
single blocks and commands that go on from the state of an earlier run. -/

namespace AgentScript

/-- A world and the states of the runs in it, oldest first. -/
structure Session where
  world : World
  runs : List Run := []

namespace Session

/-- Add the state of a fresh run. -/
def start (s : Session) (prompt : String) : Session :=
  { s with runs := s.runs ++ [.start (.str prompt)] }

/-- The session with at least one run. -/
def ensureRun (s : Session) : Session :=
  if s.runs.isEmpty then s.start "" else s

/-- The number of the run that an action is for: the one that is asked for, or else the latest. -/
def runNumber (s : Session) (asked : Option Nat) : Nat :=
  asked.getD (s.runs.length - 1)

/-- Run a script to its end. An interrupt that ends it is returned. -/
def script (c : Collaborators) (s : Session) (source prompt : String) :
    Except Failure Unit × Session :=
  let ((outcome, run), world) := s.world.play c (runScript source (.str prompt))
  (outcome, ⟨world, s.runs ++ [run]⟩)

/-- Carry out an action on one of the runs. -/
def act (c : Collaborators) (s : Session) (number : Nat) (action : RunM Unit) :
    Except Failure Unit × Session :=
  match s.runs[number]? with
  | none => (.ok (), s)
  | some run =>
    let ((outcome, after), world) := s.world.play c (action.from run)
    (outcome, ⟨world, s.runs.set number after⟩)

/-- An upper bound on how often a script pauses: every statement asks for text once at most, and so
    does the prompt. -/
def roundsFor (sources : List String) : Nat :=
  (sources.map fun source => source.length).foldl max 0 + 2

/-- Run scripts side by side, pausing at the given requests. -/
def concurrent (c : Collaborators) (pauses : Request → Bool) (s : Session)
    (scripts : List (String × String)) : Session :=
  let dialogues := scripts.map fun (source, prompt) => runScript source (.str prompt)
  let schedule := World.roundRobin scripts.length (roundsFor (scripts.map Prod.fst))
  let (ended, world) := s.world.interleave c pauses schedule dialogues
  ⟨world, s.runs ++ (ended.filterMap Dialogue.result?).map Prod.snd⟩

end Session

end AgentScript
