import AgentScript.CommandLine.Arguments
import AgentScript.Text.Quoted

set_option autoImplicit false

/-! # Usage

What the program says about its command line: how it is to be written, what the options mean, and
what was wrong with the one that was given. -/

namespace AgentScript.CommandLine

/-- The name that the program goes by. -/
def programName : String := "flowscript"

/-- The forms of a command line. -/
def usage : String :=
  "usage: " ++ programName ++ " [-h] [-v] [--prompt PROMPT | --prompt-file PROMPT_FILE]\n" ++
  "                  [--model MODEL] [--plan TASK]\n" ++
  "                  script\n"

/-- The answer to a call for help. -/
def helpText : String :=
  usage ++
  "\nFlowScript interpreter\n" ++
  "\npositional arguments:\n" ++
  "  script                FlowScript file (.flow) to execute\n" ++
  "\noptions:\n" ++
  "  -h, --help            show this help message and exit\n" ++
  "  -v                    increase debug verbosity (can be repeated)\n" ++
  "  --prompt PROMPT       prompt text available to the script as [prompt]\n" ++
  "  --prompt-file PROMPT_FILE\n" ++
  "                        read the prompt text from a file\n" ++
  "  --model MODEL         Gemini model name\n" ++
  "  --plan TASK           add a plan step (can be repeated)\n"

/-- A complaint about one option. -/
def Switch.complaint (o : Switch) (text : String) : String :=
  "argument " ++ o.shown ++ ": " ++ text

/-- What is wrong, in words. -/
def UsageError.message : UsageError → String
  | .ambiguous argument candidates =>
    "ambiguous option: " ++ argument ++ " could match " ++ String.intercalate ", " candidates
  | .valueExpected o => o.complaint "expected one argument"
  | .valueIgnored o given => o.complaint ("ignored explicit argument " ++ Text.quoted given)
  | .rivals o other => o.complaint ("not allowed with argument " ++ other.shown)
  | .scriptMissing => "the following arguments are required: script"
  | .unrecognized arguments => "unrecognized arguments: " ++ String.intercalate " " arguments

/-- The forms of a command line, and what is wrong with the given one. -/
def UsageError.report (e : UsageError) : String :=
  usage ++ programName ++ ": error: " ++ e.message ++ "\n"

end AgentScript.CommandLine
