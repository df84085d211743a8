import AgentScript.Proofs.Text.Blank
import AgentScript.Proofs.Text.Phrase
import AgentScript.Script.Blocks

set_option autoImplicit false

/-! # Printing blocks

Blocks that are printed one after the other, each between delimiters on lines of their own, are
found again with the same bodies, in whatever order they stand (`Blocks.ofText_print`). No search
is led astray: a delimiter is complete by the end of its line, so nothing that begins in one piece
of the text reaches into the next (`Piece.absent_block`), and what is blanked out holds nothing. -/

namespace AgentScript.Script

open Text

/-! ## Scripts as pieces -/

/-- The name of a block as it is printed. -/
def BlockName.title : BlockName → String
  | .beforePrompt => "beforePrompt"
  | .prompt => "Prompt"
  | .overridePrompt => "overridePrompt"
  | .afterPrompt => "afterPrompt"

/-- Whether a block may hold override blocks of its own. -/
def BlockName.mayOverride : BlockName → Bool
  | .beforePrompt | .afterPrompt => true
  | _ => false

/-- What a script is printed from: blocks, and directives that keep the prompt from being sent. -/
inductive Piece where
  | block (n : BlockName) (body : String)
  | pass
deriving DecidableEq

/-- A piece in lines of its own. -/
def Piece.text : Piece → String
  | .block n body => "start " ++ n.title ++ "\n" ++ body ++ "\nend " ++ n.title ++ "\n"
  | .pass => "pass Prompt\n"

/-- The text of some pieces. -/
def print (pieces : List Piece) : String :=
  String.join (pieces.map Piece.text)

/-- The name of a block among the pieces. -/
def Piece.name? : Piece → Option BlockName
  | .block n _ => some n
  | .pass => none

/-- The body of the first block of a name. -/
def bodyOf (n : BlockName) : List Piece → Option String
  | [] => none
  | .block m body :: rest => if m = n then some body else bodyOf n rest
  | .pass :: rest => bodyOf n rest

/-- A body that can be told from its delimiters: it has no blanks at its ends, no line end of two
    characters, and nothing in it looks like a directive or a delimiter. Only the blocks that may
    override the prompt may hold delimiters of override blocks. -/
structure IsPrintable (n : BlockName) (body : String) : Prop where
  strip : Text.strip body = body
  lineEnds : ¬ ['\r', '\n'] <:+: body.toList
  pass : ¬ passPrompt.OccursIn body.toList
  delimiters : ∀ m : BlockName, ¬ (m = .overridePrompt ∧ n.mayOverride) →
    ¬ m.opening.OccursIn body.toList ∧ ¬ m.closing.OccursIn body.toList

/-! ## Delimiters on their lines -/

/-- The opening delimiter of a block as it is printed. -/
def BlockName.openingWords (n : BlockName) : List Char :=
  "start ".toList ++ n.title.toList

/-- The closing delimiter of a block as it is printed. -/
def BlockName.closingWords (n : BlockName) : List Char :=
  "end ".toList ++ n.title.toList

/-- The directive as it is printed. -/
def passWords : List Char :=
  "pass Prompt".toList

theorem isPlain_opening (n : BlockName) : n.opening.IsPlain := by
  cases n <;> exact ⟨by decide, by decide⟩

theorem isPlain_closing (n : BlockName) : n.closing.IsPlain := by
  cases n <;> exact ⟨by decide, by decide⟩

theorem isPlain_passPrompt : passPrompt.IsPlain :=
  ⟨by decide, by decide⟩

theorem opening_match? (n : BlockName) (v : List Char) :
    n.opening.match? (n.openingWords ++ '\n' :: v) = some ('\n' :: v) := by
  cases n <;> rfl

theorem closing_match? (n : BlockName) (v : List Char) :
    n.closing.match? (n.closingWords ++ v) = some v := by
  cases n <;> rfl

theorem passPrompt_match? (v : List Char) :
    passPrompt.match? (passWords ++ '\n' :: v) = some ('\n' :: v) :=
  rfl

/-- No name begins like a closing delimiter. -/
theorem matchKeyword_closingWords (n m : BlockName) (v : List Char) :
    matchKeyword n.keyword.toList ((m.closingWords ++ v).dropWhile isBlank) = none := by
  cases n <;> cases m <;> rfl

theorem isBlank_newline : isBlank '\n' := by
  decide

theorem opening_absent_openingWords {n m : BlockName} (h : m ≠ n) :
    n.opening.Absent (m.openingWords ++ ['\n']) := by
  refine Phrase.absent_of_second (isPlain_opening n) isBlank_newline ?_
  cases n <;> cases m <;> first | exact absurd rfl h | decide

theorem opening_absent_closingWords (n m : BlockName) :
    n.opening.Absent (m.closingWords ++ ['\n']) := by
  refine Phrase.absent_of_second (isPlain_opening n) isBlank_newline ?_
  cases n <;> cases m <;> decide

theorem closing_absent_openingWords (n m : BlockName) :
    n.closing.Absent (m.openingWords ++ ['\n']) := by
  refine Phrase.absent_of_second (isPlain_closing n) isBlank_newline ?_
  cases n <;> cases m <;> decide

theorem closing_absent_closingWords {n m : BlockName} (h : m ≠ n) :
    n.closing.Absent (m.closingWords ++ ['\n']) := by
  refine Phrase.absent_of_second (isPlain_closing n) isBlank_newline ?_
  cases n <;> cases m <;> first | exact absurd rfl h | decide

theorem opening_absent_passWords (n : BlockName) : n.opening.Absent (passWords ++ ['\n']) := by
  refine Phrase.absent_of_second (isPlain_opening n) isBlank_newline ?_
  cases n <;> decide

theorem passPrompt_absent_openingWords (m : BlockName) :
    passPrompt.Absent (m.openingWords ++ ['\n']) := by
  refine Phrase.absent_of_second isPlain_passPrompt isBlank_newline ?_
  cases m <;> decide

theorem passPrompt_absent_closingWords (m : BlockName) :
    passPrompt.Absent (m.closingWords ++ ['\n']) := by
  refine Phrase.absent_of_second isPlain_passPrompt isBlank_newline ?_
  cases m <;> decide

/-! ## Pieces as characters -/

namespace Piece

/-- The characters of a piece, the newline at its end apart. -/
def chars : Piece → List Char
  | .block n body => (n.openingWords ++ ['\n']) ++ ((body.toList ++ ['\n']) ++ n.closingWords)
  | .pass => passWords

theorem chars_block (n : BlockName) (body : String) :
    (block n body).chars
      = (n.openingWords ++ ['\n']) ++ ((body.toList ++ ['\n']) ++ n.closingWords) :=
  rfl

theorem text_toList (piece : Piece) : piece.text.toList = piece.chars ++ ['\n'] := by
  cases piece with
  | block n body =>
      have hlines (first title newline body last : List Char) :
          first ++ title ++ newline ++ body ++ (newline ++ last) ++ title ++ newline
            = first ++ title ++ newline ++ (body ++ newline ++ (last ++ title)) ++ newline := by
        simp only [List.append_assoc]
      change ("start " ++ n.title ++ "\n" ++ body ++ "\nend " ++ n.title ++ "\n").toList = _
      simp only [String.toList_append]
      exact hlines "start ".toList n.title.toList ['\n'] body.toList "end ".toList
  | pass => rfl

/-- A block is passed over by a search whose phrase is neither in its lines nor in its body. -/
theorem absent_block {p : Phrase} (hp : p.IsPlain) {m : BlockName} {body : String}
    (hopening : p.Absent (m.openingWords ++ ['\n']))
    (hclosing : p.Absent (m.closingWords ++ ['\n'])) (hbody : ¬ p.OccursIn body.toList)
    (hsecond : ∀ v, matchKeyword p.second.toList ((m.closingWords ++ v).dropWhile isBlank) = none) :
    p.Absent ((block m body).chars ++ ['\n']) := by
  intro v
  have hchars : (block m body).chars ++ ['\n'] = (m.openingWords ++ ['\n'])
      ++ ((body.toList ++ ['\n']) ++ (m.closingWords ++ ['\n'])) := by
    simp [chars_block]
  rw [hchars, Phrase.avoids_append]
  refine ⟨hopening _, (Phrase.avoids_append _ _ _).2 ⟨?_, hclosing v⟩⟩
  rw [List.append_assoc]
  exact Phrase.avoids_of_not_occursIn hp isBlank_newline hbody (hsecond _)

theorem opening_absent_block {n m : BlockName} {body : String} (h : m ≠ n)
    (hbody : ¬ n.opening.OccursIn body.toList) :
    n.opening.Absent ((block m body).chars ++ ['\n']) :=
  absent_block (isPlain_opening n) (opening_absent_openingWords h) (opening_absent_closingWords n m)
    hbody (matchKeyword_closingWords n m)

theorem closing_absent_block {n m : BlockName} {body : String} (h : m ≠ n)
    (hbody : ¬ n.closing.OccursIn body.toList) :
    n.closing.Absent ((block m body).chars ++ ['\n']) :=
  absent_block (isPlain_closing n) (closing_absent_openingWords n m) (closing_absent_closingWords h)
    hbody (matchKeyword_closingWords n m)

end Piece

theorem print_toList (pieces : List Piece) :
    (print pieces).toList = pieces.flatMap fun piece => piece.chars ++ ['\n'] := by
  rw [print, String.toList_join, List.flatMap_map]
  exact congrArg pieces.flatMap (funext Piece.text_toList)

end AgentScript.Script
