import AgentScript.Text.Blank

set_option autoImplicit false

/-! # Searching

A *matcher* looks at the front of a text and returns what is left after its match. `splitAtMatch`
finds the first place where a matcher succeeds. -/

namespace AgentScript.Text

/-- Reads something at the front of a text and returns the rest. -/
abbrev Matcher := List Char → Option (List Char)

/-- Matches the exact text `word`. -/
def matchText (word : List Char) : Matcher := fun s =>
  match word, s with
  | [], rest => some rest
  | _ :: _, [] => none
  | w :: word, c :: rest => if w == c then matchText word rest else none

/-- Matches one blank or more, as many as there are. -/
def matchBlanks : Matcher
  | [] => none
  | c :: rest => if isBlank c then some (rest.dropWhile isBlank) else none

/-- The text before the first place where `m` matches, and the rest after the match. -/
def splitAtMatch (m : Matcher) : List Char → Option (List Char × List Char)
  | [] => (m []).map fun rest => ([], rest)
  | c :: s =>
    match m (c :: s) with
    | some rest => some ([], rest)
    | none => (splitAtMatch m s).map fun (before, rest) => (c :: before, rest)

/-- Whether `word` occurs in `s`. -/
def occursIn (word s : String) : Bool :=
  (splitAtMatch (matchText word.toList) s.toList).isSome

/-- The text before and after the first occurrence of `word`. -/
def cutAt (word s : String) : Option (String × String) :=
  (splitAtMatch (matchText word.toList) s.toList).map fun (before, rest) =>
    (String.ofList before, String.ofList rest)

/-- Whether `s` begins with `word`. -/
def beginsWith (word s : String) : Bool :=
  (matchText word.toList s.toList).isSome

end AgentScript.Text
