import AgentScript.Text.Phrase
import AgentScript.Text.Record

set_option autoImplicit false

/-! # The blocks of a script

A script is divided by delimiters, `start Name` and `end Name` in any case, anywhere in the text. A
block is what lies between the first opening delimiter of its name and the first closing one after
it. An override block counts only outside the blocks that run before and after the prompt: these are
blanked out before it is looked for. -/

namespace AgentScript.Script

/-- The blocks that a script may have. -/
inductive BlockName where
  | beforePrompt
  | prompt
  | overridePrompt
  | afterPrompt
deriving DecidableEq

/-- The keyword of a block, in lower case. -/
def BlockName.keyword : BlockName → String
  | .beforePrompt => "beforeprompt"
  | .prompt => "prompt"
  | .overridePrompt => "overrideprompt"
  | .afterPrompt => "afterprompt"

/-- The opening delimiter of a block. -/
def BlockName.opening (n : BlockName) : Text.Phrase := ⟨"start", n.keyword⟩

/-- The closing delimiter of a block. -/
def BlockName.closing (n : BlockName) : Text.Phrase := ⟨"end", n.keyword⟩

/-- The directive that keeps the prompt block from being sent. -/
def passPrompt : Text.Phrase := ⟨"pass", "prompt"⟩

/-- A block in a text: the offsets where its opening delimiter begins and its closing one ends, and
    what lies between the delimiters. -/
structure Region where
  start : Nat
  stop : Nat
  interior : List Char

/-- The first block of a name. Without a closing delimiter after the first opening one there is
    none. -/
def findBlock (n : BlockName) (text : List Char) : Option Region := do
  let (before, inner) ← Text.splitAtMatch n.opening.match? text
  let (interior, after) ← Text.splitAtMatch n.closing.match? inner
  return ⟨before.length, text.length - after.length, interior⟩

/-- The body of a block: its interior without the blanks at either end. -/
def Region.body (r : Region) : String :=
  String.ofList (Text.stripChars r.interior)

/-- The text with the characters of a region, newlines apart, turned into spaces. -/
def blankOut (r : Region) (text : List Char) : List Char :=
  text.mapIdx fun i c => if r.start ≤ i && i < r.stop && c != '\n' then ' ' else c

/-- Blank out a region if there is one. -/
def blankOut? (r : Option Region) (text : List Char) : List Char :=
  r.elim text fun r => blankOut r text

/-- The bodies of a script's blocks; `none` stands for an absent block. -/
structure Blocks where
  beforePrompt : Option String := none
  prompt : Option String := none
  overridePrompt : Option String := none
  afterPrompt : Option String := none

/-- The blocks of a script. -/
def Blocks.ofText (source : String) : Blocks :=
  let text := Text.joinLineEnds source.toList
  let before := findBlock .beforePrompt text
  let after := findBlock .afterPrompt text
  let topLevel := blankOut? after (blankOut? before text)
  let passed := (Text.splitAtMatch passPrompt.match? text).isSome
  { beforePrompt := before.map Region.body
    prompt := if passed then none else (findBlock .prompt text).map Region.body
    overridePrompt := (findBlock .overridePrompt topLevel).map Region.body
    afterPrompt := after.map Region.body }

/-- The blocks as a record. -/
def Blocks.shown (b : Blocks) : String :=
  Text.record "Blocks"
    [("before_prompt", Text.quoted? b.beforePrompt), ("prompt", Text.quoted? b.prompt),
     ("override_prompt", Text.quoted? b.overridePrompt),
     ("after_prompt", Text.quoted? b.afterPrompt)]

end AgentScript.Script
