import AgentScript.Run.Dispatch
import AgentScript.Script.Step

set_option autoImplicit false

/-! # Running a block

The steps of a block are carried out in order, until one fails. -/

namespace AgentScript.RunM

/-- Register an agent with the instruction that waits for one. -/
def register (agent : Option String) : RunM Unit := do
  match agent, Command.nonempty? (← get).pending with
  | some agent, some instruction =>
    modify fun run => { run with agents := run.agents.put agent instruction, pending := none }
    logAction ("Agent Registered: " ++ agent)
  | _, _ => fail (.script .registrationWithoutInstruction)

/-- Keep the last result under a name. -/
def keep (name : String) : RunM Unit := do
  let v := (← get).lastResult
  bindName name v
  trace 3 ("set " ++ name ++ " = " ++ (← lift v.literal))

/-- Do what a step is to do. -/
def act : Script.Action → RunM Unit
  | .override body => do setAnswer (← resolve body)
  | .callAgent agent arguments => dispatch (.ofAgentCall agent arguments)
  | .callCommand name arguments => call name arguments
  | .keep (some name) => keep name
  | .keep none | .nothing => pure ()
  | .register agent => register agent

/-- Carry out a step. -/
def step (s : Script.Step) : RunM Unit := do
  trace 2 s.shown
  act s.action

/-- Carry out a list of steps. -/
def runSteps : List Script.Step → RunM Unit
  | [] => pure ()
  | s :: rest => do
    step s
    runSteps rest

/-- Run a block. -/
def runBlock (block : String) : RunM Unit :=
  runSteps (Script.steps block)

end AgentScript.RunM
