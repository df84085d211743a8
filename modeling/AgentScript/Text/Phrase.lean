import AgentScript.Text.Search

set_option autoImplicit false

/-! # Phrases

The directives of a script are two keywords with blanks between them, written in any case:
`start Prompt`, `pass Prompt`, `getOutput as`. -/

namespace AgentScript.Text

/-- The ASCII letter, in lower case, that a keyword sees in `c`; besides the capitals these are the
    long s, the dotted and the dotless i and the kelvin sign. -/
def foldLetter (c : Char) : Char :=
  if c == 'ſ' then 's'
  else if c == 'İ' || c == 'ı' then 'i'
  else if c == '\u212A' then 'k'
  else c.toLower

/-- Matches the letters of `word`, which is in lower case, in any case. -/
def matchKeyword (word : List Char) : Matcher := fun s =>
  match word, s with
  | [], rest => some rest
  | _ :: _, [] => none
  | w :: word, c :: rest => if foldLetter c == w then matchKeyword word rest else none

/-- Two keywords, both in lower case. -/
structure Phrase where
  first : String
  second : String

/-- Matches the two keywords with at least one blank between them. -/
def Phrase.match? (p : Phrase) : Matcher := fun s =>
  (matchKeyword p.first.toList s).bind matchBlanks |>.bind (matchKeyword p.second.toList)

end AgentScript.Text
