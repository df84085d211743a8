import AgentScript.Markup.Bracket
import AgentScript.Markup.Emphasis
import AgentScript.Markup.Link

set_option autoImplicit false

/-! # Passages

A passage is the text of a block. Its constructs are found in stages; the text inside a construct is
read by the stages after its own. What stands deeper than in a construct of the passage itself is
read by all stages once more. -/

namespace AgentScript.Markup

/-- What passages may draw on. -/
structure Resources where
  references : References := []
  insets : Insets := {}

/-- The stages after code and escapes. -/
def stagesOf (references : References) : List Stage :=
  let referring (isImage short : Bool) := Stage.ofRule (referenceRule references isImage short)
  [referring false false, .ofRule (linkRule false), .ofRule (linkRule true), referring true false,
   referring false true, referring true true, .ofRule fun _ => addressRule,
   .ofRule fun _ => mailboxRule, fun _ => findBreaks, .ofRule fun _ => tagRule,
   fun _ s => protectLone ['*', '_'] s.length true s, .emphasising asteriskRules,
   .emphasising underscoreRules]

/-- Read the texts between pieces once more, and those in and between the pieces inside. -/
def readAgain (read : List Inline → List Inline) : Nat → List Inline → List Inline
  | 0, s => s
  | fuel + 1, s =>
    let text := s.takeWhile Inline.isText
    match s.drop text.length with
    | [] => read text
    | i :: rest => read text ++ i.mapContent (readAgain read fuel) :: readAgain read fuel rest

/-- Read the texts after pieces once more, and all texts inside them. -/
def readAgainAfter (read : List Inline → List Inline) (fuel : Nat) (s : List Inline) :
    List Inline :=
  let text := s.takeWhile Inline.isText
  text ++ readAgain read fuel (s.drop text.length)

/-- All constructs of a passage. -/
def inlinesOf (r : Resources) (s : List Char) : List Inline :=
  let read := runStages (stagesOf r.references)
  (read (piecesOf r.insets s)).map (Inline.mapContent (readAgainAfter read s.length))

end AgentScript.Markup
