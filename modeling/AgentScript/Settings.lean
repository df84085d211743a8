import AgentScript.Generation.Remote

set_option autoImplicit false

/-! # Settings

What the environment says about the generator. A variable that is set to nothing counts as unset. -/

namespace AgentScript

/-- The key to the models and the model to ask. -/
structure Settings where
  apiKey : Option String := none
  model : String := Generation.defaultModel

/-- The settings of an environment. -/
def Settings.ofEnvironment (read? : String → Option String) : Settings :=
  let set? (name : String) := (read? name).filter (· != "")
  { apiKey := set? "GEMINI_API_KEY"
    model := (set? "FLOWSCRIPT_MODEL").getD Generation.defaultModel }

end AgentScript
