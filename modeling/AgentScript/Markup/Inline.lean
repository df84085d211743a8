import AgentScript.Markup.Inset
import AgentScript.Markup.Reference
import AgentScript.Markup.Tag
import AgentScript.Text.Markup

set_option autoImplicit false

/-! # Inline markup

A marked-up text is a list of pieces: single characters, and the constructs that have been found
among them. Constructs are found in a fixed order, each in what the earlier ones left as
characters, so that what is found first is out of reach for whatever comes later. Code and escapes
come before all others, and mean the same in every text. -/

namespace AgentScript.Markup

/-- A piece of marked-up text. -/
inductive Inline where
  | char (c : Char)
  /-- A character that means nothing but itself. -/
  | literal (c : Char)
  /-- A tag or a comment, written as it is but for the constructs in it. -/
  | tag (content : List Inline)
  /-- Markup that was finished before. -/
  | inset (markup : List Char)
  | code (text : List Char)
  | lineBreak
  | image (source alternative : List Char) (title : Option (List Char))
  /-- An address that is a link by itself. -/
  | address (target : List Char) (content : List Inline)
  /-- The address of a mailbox. -/
  | mailbox (address : List Char)
  | link (target : List Char) (title : Option (List Char)) (content : List Inline)
  | strong (content : List Inline)
  | emphasis (content : List Inline)

namespace Inline

/-- The character that a piece is, unless it is a construct or protected. -/
def char? : Inline → Option Char
  | .char c => some c
  | _ => none

/-- Whether a piece is the character `c`, unprotected. -/
def isChar (c : Char) (i : Inline) : Bool :=
  i.char? == some c

/-- Whether a piece is a blank. -/
def isBlank (i : Inline) : Bool :=
  i.char?.any Text.isBlank

/-- Whether a piece belongs to the text between elements. -/
def isText : Inline → Bool
  | .char _ | .literal _ | .tag _ | .inset _ => true
  | _ => false

mutual

/-- The text of a piece without any markup. -/
def plainText : Inline → List Char
  | .char c | .literal c => [c]
  | .code text => text.flatMap Text.escapeMarkupChar
  | .address _ content | .link _ _ content | .strong content | .emphasis content =>
    plainTextOf content
  | _ => []

/-- The text of pieces without any markup. -/
def plainTextOf : List Inline → List Char
  | [] => []
  | i :: rest => i.plainText ++ plainTextOf rest

end

/-- The characters that pieces are, if they are nothing else. -/
def onlyChars? (pieces : List Inline) : Option (List Char) :=
  pieces.mapM char?

/-- Apply `f` to the content of a piece that may hold further markup. -/
def mapContent (f : List Inline → List Inline) : Inline → Inline
  | .link target title content => .link target title (f content)
  | .strong content => .strong (f content)
  | .emphasis content => .emphasis (f content)
  | i => i

end Inline

/-! ## Finding constructs -/

/-- What a rule makes of the beginning of a text. -/
inductive Reading where
  /-- The pieces that constructs are, and what follows them. -/
  | found (pieces : List Inline) (rest : List Inline)
  /-- No construct, and none begins before the rest. -/
  | passed (rest : List Inline)

/-- A rule reads the beginning of a text, given the piece before it. -/
abbrev Rule := Option Inline → List Inline → Option Reading

/-- The first constructs that a rule finds, between what is before and after them. -/
def firstFound (rule : Rule) :
    Nat → Option Inline → List Inline → Option (List Inline × List Inline × List Inline)
  | 0, _, _ => none
  | _, _, [] => none
  | fuel + 1, before, i :: rest =>
    let onwards (skipped rest : List Inline) :=
      (firstFound rule fuel skipped.getLast? rest).map fun (before, pieces, after) =>
        (skipped ++ before, pieces, after)
    match rule before (i :: rest) with
    | some (.found pieces after) => some ([], pieces, after)
    | some (.passed after) => onwards ((i :: rest).take (rest.length + 1 - after.length)) after
    | none => onwards [i] rest

/-- Put constructs in the place of the texts that a rule finds. After each of them the whole text is
    read again: what did not end before may end now. -/
def replaceEach (rule : Rule) : Nat → List Inline → List Inline
  | 0, s => s
  | fuel + 1, s =>
    match firstFound rule (s.length + 1) none s with
    | some (before, pieces, after) => replaceEach rule fuel (before ++ pieces ++ after)
    | none => s

/-! ## Code spans -/

/-- The pieces before and after the first run of exactly `n` backticks, given what has been read
    before it, in reverse, and how many backticks have been read just now. -/
def splitAtRun (n : Nat) (before : List Inline) (ticks : Nat) :
    List Inline → Option (List Inline × List Inline)
  | [] => if ticks == n then some (before.reverse, []) else none
  | i :: rest =>
    if i.isChar backtick then splitAtRun n before (ticks + 1) rest
    else if ticks == n then some (before.reverse, i :: rest)
    else splitAtRun n (i :: List.replicate ticks (.char backtick) ++ before) 0 rest

/-- The code after `n` opening backticks, and what follows it. As many of the backticks as possible
    open the code; the others belong to it. -/
def codeAfter (spare : Nat) (s : List Inline) : Nat → Option (List Inline × List Inline)
  | 0 => none
  | n + 1 =>
    match splitAtRun (n + 1) [] 0 s with
    | some (code, rest) => some (List.replicate spare (.char backtick) ++ code, rest)
    | none => codeAfter (spare + 1) s n

/-- Finds code spans. A backslash keeps the backtick after it from opening one, and pairs of
    backslashes before a backtick stand for single ones. -/
def codeRule : Rule := fun before s =>
  let escaped := before.any (Inline.isChar '\\')
  let ticks := (s.takeWhile (Inline.isChar backtick)).length
  let backslashes := (s.takeWhile (Inline.isChar '\\')).length
  if escaped then none
  else if 0 < ticks then
    (codeAfter 0 (s.drop ticks) ticks).map fun (code, rest) =>
      .found [.code (Text.stripChars (Inline.plainTextOf code))] rest
  else if 0 < backslashes && backslashes % 2 == 0 &&
      (s.drop backslashes).head?.any (Inline.isChar backtick) then
    some (.found (List.replicate (backslashes / 2) (.literal '\\')) (s.drop backslashes))
  else none

/-! ## Escapes and insets -/

/-- The characters that a backslash protects. -/
def isEscapable (c : Char) : Bool :=
  c == backtick || "\\*_\x7b\x7d[]()>#+-.!|".toList.contains c

/-- Find the protected characters. -/
def findEscapes : List Inline → List Inline
  | .char '\\' :: .char c :: rest =>
    if isEscapable c then .literal c :: findEscapes rest
    else .char '\\' :: .char c :: findEscapes rest
  | i :: rest => i :: findEscapes rest
  | [] => []

/-- The pieces of a text, before any constructs but code and escapes are found. A text has one inset
    at most, at its end. -/
def piecesOf (insets : Insets) (s : List Char) : List Inline :=
  let before := s.takeWhile (· != insetOpening)
  let inset := match Insets.mark? (s.drop before.length) with
    | some (k, after) => .inset (insets.markup k) :: after.map .char
    | none => []
  findEscapes (replaceEach codeRule before.length (before.map .char)) ++ inset

/-! ## Stages -/

/-- A stage of reading; it is given the later stages for the text inside of what it finds. -/
abbrev Stage := (List Inline → List Inline) → List Inline → List Inline

/-- The stage that finds constructs by a rule. -/
def Stage.ofRule (rule : (List Inline → List Inline) → Rule) : Stage := fun later s =>
  replaceEach (rule later) s.length s

/-- Read a text in stages. -/
def runStages : List Stage → List Inline → List Inline
  | [], s => s
  | stage :: later, s => runStages later (stage (runStages later) s)

end AgentScript.Markup
