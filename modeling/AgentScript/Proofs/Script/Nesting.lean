import AgentScript.Proofs.Script.Composition
import AgentScript.Proofs.Script.Extraction
import AgentScript.Proofs.Text.LineEnd

set_option autoImplicit false

/-! # Overrides by themselves and within a block

An override may stand by itself or make up the block after the prompt. Either way its body is found
whole: by the search for blocks if it stands by itself (`Blocks.ofText_alone`), by the steps of the
block if it stands in one (`Blocks.ofText_nested`, `steps_enclosed_override`). A line of the body
does not end the override, since what ends it would be a closing delimiter in the body. -/

namespace AgentScript.Script

open Text

/-! ## Blocks in a text -/

/-- A block between delimiters on lines of their own. -/
def enclosed (n : BlockName) (body : String) : String :=
  "start " ++ n.title ++ "\n" ++ body ++ "\nend " ++ n.title

/-- The block before the prompt and the end of its last line, if there is such a block. -/
def preamble (before : Option String) : String :=
  before.elim "" fun body => enclosed .beforePrompt body ++ "\n"

/-- Neither delimiter of a block is anywhere in a text. -/
def IsFreeOf (n : BlockName) (body : String) : Prop :=
  ¬ n.opening.OccursIn body.toList ∧ ¬ n.closing.OccursIn body.toList

instance (n : BlockName) (body : String) : Decidable (IsFreeOf n body) :=
  inferInstanceAs (Decidable (_ ∧ _))

theorem enclosed_toList (n : BlockName) (body : String) :
    (enclosed n body).toList = (Piece.block n body).chars := by
  have htext : (enclosed n body ++ "\n").toList = (Piece.block n body).chars ++ ['\n'] :=
    Piece.text_toList (.block n body)
  rw [String.toList_append] at htext
  exact List.append_cancel_right htext

theorem preamble_some_toList (body : String) :
    (preamble (some body)).toList = (Piece.block .beforePrompt body).chars ++ ['\n'] :=
  Piece.text_toList (.block .beforePrompt body)

theorem findBlock_eq_none {n : BlockName} {u : List Char} (h : n.opening.Absent (u ++ ['\n'])) :
    findBlock n u = none := by
  have hnone : ¬ (splitAtMatch n.opening.match? u).isSome := by
    rw [splitAtMatch_isSome_iff]
    exact fun hoccurs => h.not_occursIn (isPlain_opening n)
      (hoccurs.mono (isPlain_opening n) (List.prefix_append u ['\n']).isInfix)
  rw [findBlock, Option.not_isSome_iff_eq_none.1 hnone]
  rfl

/-- Nothing but blanks is left of what is blanked out. -/
theorem absent_blankChar (n : BlockName) (u : List Char) : n.opening.Absent (u.map blankChar) :=
  Phrase.absent_of_blank (isPlain_opening n) fun c hc => by
    obtain ⟨d, -, rfl⟩ := List.mem_map.1 hc
    exact isBlank_blankChar d

/-- A block is found where it stands, with its body, and blanking it out leaves the text around
    it. -/
theorem exists_findBlock_append {n : BlockName} {body : String} {u : List Char}
    (hu : n.opening.Absent u) (hbody : ¬ n.closing.OccursIn body.toList) (v : List Char) :
    ∃ r, findBlock n (u ++ ((Piece.block n body).chars ++ v)) = some r ∧ r.body = strip body
      ∧ ∀ u' : List Char, u'.length = u.length →
        blankOut r (u' ++ ((Piece.block n body).chars ++ v))
          = u' ++ ((Piece.block n body).chars.map blankChar ++ v) := by
  refine ⟨_, findBlock_append hu hbody v, ?_, fun u' hlength => ?_⟩
  · exact congrArg String.ofList (stripChars_newlines body.toList)
  · exact blankOut_append hlength.symm (by rw [hlength]) v

/-! ## Joined line ends -/

theorem IsFreeOf.joinsTo {n : BlockName} {body body' : String} (h : IsFreeOf n body)
    (hjoin : JoinsTo body.toList body'.toList) : IsFreeOf n body' :=
  ⟨fun hopening => h.1 (hjoin.occursIn (isPlain_opening n) hopening),
    fun hclosing => h.2 (hjoin.occursIn (isPlain_closing n) hclosing)⟩

theorem exists_joinsTo_toList (body : String) :
    ∃ body' : String, JoinsTo body.toList body'.toList := by
  obtain ⟨u, hu⟩ := exists_joinsTo body.toList
  exact ⟨String.ofList u, by rwa [String.toList_ofList]⟩

theorem joinLineEnds_closingWords (n : BlockName) :
    joinLineEnds n.closingWords = n.closingWords := by
  cases n <;> rfl

theorem joinsTo_openingWords (n : BlockName) : JoinsTo n.openingWords n.openingWords :=
  joinLineEnds_append (by cases n <;> decide)

theorem joinsTo_closingWords (n : BlockName) : JoinsTo n.closingWords n.closingWords :=
  joinLineEnds_append (by cases n <;> decide)

theorem chars_block_append (n : BlockName) (body : String) (v : List Char) :
    (Piece.block n body).chars ++ v
      = n.openingWords ++ '\n' :: (body.toList ++ '\n' :: (n.closingWords ++ v)) := by
  simp [Piece.chars_block]

/-- The line ends of a block are joined in its body only. -/
theorem joinsTo_block (n : BlockName) {body body' : String}
    (h : JoinsTo body.toList body'.toList) :
    JoinsTo (Piece.block n body).chars (Piece.block n body').chars := by
  intro v
  rw [chars_block_append, chars_block_append, joinsTo_openingWords, h, joinsTo_closingWords]

theorem joinLineEnds_block (n : BlockName) {body body' : String}
    (h : JoinsTo body.toList body'.toList) :
    joinLineEnds (Piece.block n body).chars = (Piece.block n body').chars := by
  rw [← List.append_nil (Piece.block n body).chars, ← List.append_nil (Piece.block n body').chars,
    chars_block_append, chars_block_append, joinsTo_openingWords, h, List.append_nil,
    joinLineEnds_closingWords]

/-- What is joined in the block before the prompt puts no delimiter into it. -/
theorem exists_joinLineEnds_preamble {before : Option String}
    (h : ∀ body ∈ before, ∀ n ≠ .overridePrompt, IsFreeOf n body) :
    ∃ before' : Option String, (∀ body ∈ before', ∀ n ≠ .overridePrompt, IsFreeOf n body)
      ∧ ∀ v, joinLineEnds ((preamble before).toList ++ v)
        = (preamble before').toList ++ joinLineEnds v := by
  cases before with
  | none => exact ⟨none, h, fun v => rfl⟩
  | some body =>
      obtain ⟨body', hjoin⟩ := exists_joinsTo_toList body
      refine ⟨some body', fun b hb n hn => ?_, fun v => ?_⟩
      · obtain rfl := Option.some.inj hb
        exact (h body rfl n hn).joinsTo hjoin
      · rw [preamble_some_toList, preamble_some_toList, List.append_assoc, List.append_assoc]
        exact joinsTo_block .beforePrompt hjoin v

/-! ## The blocks that are found -/

section Found

variable {before : Option String}
  (hbefore : ∀ body ∈ before, ∀ n ≠ .overridePrompt, IsFreeOf n body)
  {b : String} (hb : ∀ n, IsFreeOf n b)

include hbefore in
theorem opening_absent_preamble {n : BlockName} (hn : n ≠ .overridePrompt)
    (hne : n ≠ .beforePrompt) : n.opening.Absent (preamble before).toList := by
  cases before with
  | none => exact fun _ => trivial
  | some body =>
      rw [preamble_some_toList]
      exact Piece.opening_absent_block hne.symm (hbefore body rfl n hn).1

include hbefore in
/-- The block before the prompt is found at its place, and blanking it out leaves the rest. -/
theorem findBlock_preamble {rest : List Char}
    (hrest : BlockName.beforePrompt.opening.Absent (rest ++ ['\n'])) :
    (findBlock .beforePrompt ((preamble before).toList ++ rest)).map Region.body
        = before.map Text.strip
      ∧ blankOut? (findBlock .beforePrompt ((preamble before).toList ++ rest))
          ((preamble before).toList ++ rest)
        = (preamble before).toList.map blankChar ++ rest := by
  cases before with
  | none =>
      have hnone := findBlock_eq_none hrest
      change (findBlock .beforePrompt rest).map Region.body = none
        ∧ blankOut? (findBlock .beforePrompt rest) rest = rest
      rw [hnone]
      exact ⟨rfl, rfl⟩
  | some body =>
      have hclosing := (hbefore body rfl .beforePrompt (by decide)).2
      obtain ⟨r, hfind, hr, hblank⟩ := exists_findBlock_append (u := []) (fun _ => trivial)
        hclosing ('\n' :: rest)
      rw [List.nil_append] at hfind
      rw [preamble_some_toList, List.append_assoc, List.singleton_append, hfind]
      constructor
      · exact congrArg some hr
      · rw [List.map_append, List.append_assoc]
        exact hblank [] rfl

include hb

/-- No delimiter but that of the block itself is in an override and the lines around it. -/
theorem not_occursIn_enclosed {n : BlockName} (hn : n ≠ .overridePrompt) :
    IsFreeOf n (enclosed .overridePrompt b) := by
  have hpart : (enclosed .overridePrompt b).toList <:+:
      (Piece.block .overridePrompt b).chars ++ ['\n'] := by
    rw [enclosed_toList]
    exact (List.prefix_append _ _).isInfix
  exact ⟨fun h => (Piece.opening_absent_block hn.symm (hb n).1).not_occursIn (isPlain_opening n)
      (h.mono (isPlain_opening n) hpart),
    fun h => (Piece.closing_absent_block hn.symm (hb n).2).not_occursIn (isPlain_closing n)
      (h.mono (isPlain_closing n) hpart)⟩

include hbefore

/-- The blocks of a script with an override by itself. -/
theorem Blocks.ofText_alone {source : String}
    (htext : joinLineEnds source.toList
      = (preamble before).toList ++ (Piece.block .overridePrompt b).chars) :
    ofText source
      = { beforePrompt := before.map Text.strip, overridePrompt := some (strip b) } := by
  have hopening (n : BlockName) (hn : n ≠ .overridePrompt) :
      n.opening.Absent ((Piece.block .overridePrompt b).chars ++ ['\n']) :=
    Piece.opening_absent_block hn.symm (hb n).1
  have hnone (n : BlockName) (hn : n ≠ .overridePrompt) (hne : n ≠ .beforePrompt) :
      findBlock n ((preamble before).toList ++ (Piece.block .overridePrompt b).chars) = none := by
    refine findBlock_eq_none ?_
    rw [List.append_assoc]
    exact (opening_absent_preamble hbefore hn hne).append (hopening n hn)
  obtain ⟨hbody, hblank⟩ := findBlock_preamble hbefore (hopening .beforePrompt (by decide))
  obtain ⟨r, hfind, hr, -⟩ := exists_findBlock_append
    (absent_blankChar .overridePrompt (preamble before).toList) (hb .overridePrompt).2 []
  rw [List.append_nil] at hfind
  have htop : blankOut? none ((preamble before).toList.map blankChar
      ++ (Piece.block .overridePrompt b).chars) = (preamble before).toList.map blankChar
      ++ (Piece.block .overridePrompt b).chars := rfl
  simp only [ofText, htext, hnone .afterPrompt (by decide) (by decide), hblank, hbody,
    hnone .prompt (by decide) (by decide), htop, hfind, Option.map_some, Option.map_none, hr,
    ite_self]

/-- The blocks of a script with an override in the block after the prompt. -/
theorem Blocks.ofText_nested {source : String}
    (htext : joinLineEnds source.toList
      = (preamble before).toList ++ (Piece.block .afterPrompt (enclosed .overridePrompt b)).chars) :
    ofText source = { beforePrompt := before.map Text.strip,
                      afterPrompt := some (strip (enclosed .overridePrompt b)) } := by
  have hfree {n : BlockName} (hn : n ≠ .overridePrompt) := not_occursIn_enclosed hb hn
  have hopening (n : BlockName) (hn : n ≠ .overridePrompt) (hne : n ≠ .afterPrompt) :
      n.opening.Absent
        ((Piece.block .afterPrompt (enclosed .overridePrompt b)).chars ++ ['\n']) :=
    Piece.opening_absent_block hne.symm (hfree hn).1
  have hprompt : findBlock .prompt ((preamble before).toList
      ++ (Piece.block .afterPrompt (enclosed .overridePrompt b)).chars) = none := by
    refine findBlock_eq_none ?_
    rw [List.append_assoc]
    exact (opening_absent_preamble hbefore (by decide) (by decide)).append
      (hopening .prompt (by decide) (by decide))
  obtain ⟨hbody, hblank⟩ :=
    findBlock_preamble hbefore (hopening .beforePrompt (by decide) (by decide))
  obtain ⟨r, hafter, hr, hblankAfter⟩ := exists_findBlock_append
    (opening_absent_preamble hbefore (n := .afterPrompt) (by decide) (by decide))
    (hfree (n := .afterPrompt) (by decide)).2 []
  have hblanked := hblankAfter ((preamble before).toList.map blankChar) (List.length_map _)
  rw [List.append_nil] at hafter
  rw [List.append_nil, List.append_nil, ← List.map_append] at hblanked
  have htop : blankOut? (some r) ((preamble before).toList.map blankChar
        ++ (Piece.block .afterPrompt (enclosed .overridePrompt b)).chars)
      = ((preamble before).toList
        ++ (Piece.block .afterPrompt (enclosed .overridePrompt b)).chars).map blankChar := hblanked
  -- with both blocks blanked out, nothing but blanks is left
  simp only [ofText, htext, hafter, hblank, hbody, hprompt, htop,
    findBlock_of_absent (absent_blankChar .overridePrompt _), Option.map_some, Option.map_none, hr,
    ite_self]

end Found

/-- The blocks of the two scripts, which have the same bodies up to joined line ends. -/
theorem Blocks.exists_ofText_enclosed {before : Option String}
    (hbefore : ∀ body ∈ before, ∀ n ≠ .overridePrompt, IsFreeOf n body) {b : String}
    (hb : ∀ n, IsFreeOf n b) :
    ∃ (before' : Option String) (b' : String), (∀ n, IsFreeOf n b')
      ∧ b'.toList.all isBlank = b.toList.all isBlank
      ∧ ofText (preamble before ++ enclosed .overridePrompt b)
        = { beforePrompt := before', overridePrompt := some (strip b') }
      ∧ ofText (preamble before ++ enclosed .afterPrompt (enclosed .overridePrompt b))
        = { beforePrompt := before'
            afterPrompt := some (strip (enclosed .overridePrompt b')) } := by
  obtain ⟨before', hbefore', hpreamble⟩ := exists_joinLineEnds_preamble hbefore
  obtain ⟨b', hjoin⟩ := exists_joinsTo_toList b
  have hb' (n : BlockName) : IsFreeOf n b' := (hb n).joinsTo hjoin
  have hnested : JoinsTo (enclosed .overridePrompt b).toList
      (enclosed .overridePrompt b').toList := by
    rw [enclosed_toList, enclosed_toList]
    exact joinsTo_block .overridePrompt hjoin
  refine ⟨before'.map strip, b', hb', hjoin.all_isBlank, ofText_alone hbefore' hb' ?_,
    ofText_nested hbefore' hb' ?_⟩
  · rw [String.toList_append, hpreamble, enclosed_toList, joinLineEnds_block _ hjoin]
  · rw [String.toList_append, hpreamble, enclosed_toList, joinLineEnds_block _ hnested]

/-! ## The steps of a block that is an override -/

theorem enclosed_overridePrompt (b : String) :
    enclosed .overridePrompt b
      = "start overridePrompt" ++ "\n" ++ (b ++ "\n" ++ "end overridePrompt") := by
  rw [← String.toList_inj]
  simp [enclosed, BlockName.title]

theorem strip_enclosed_overridePrompt (b : String) :
    strip (enclosed .overridePrompt b) = enclosed .overridePrompt b := by
  have hends : (enclosed .overridePrompt b).toList = 's' :: ("tart overridePrompt\n".toList
      ++ b.toList ++ "\nend overridePromp".toList ++ ['t']) := by
    rw [enclosed_overridePrompt]
    simp
  rw [strip, hends, stripChars_of_ends (by decide) (by decide), ← hends, String.ofList_toList]

theorem isOverrideEnd_eq_false {b line : String} (hb : IsFreeOf .overridePrompt b)
    (hline : line ∈ newlineSplit b) : isOverrideEnd line = false := by
  rw [← Bool.not_eq_true]
  intro hend
  have hstripped : BlockName.overridePrompt.closing.OccursIn (stripChars line.toList) :=
    ⟨[], _, rfl, hend⟩
  exact hb.2 (hstripped.mono (isPlain_closing _)
    ((stripChars_isInfix _).trans (infix_of_mem_newlineSplit hline)))

/-- An override makes one step: its body is what stands between its first and its last line. -/
theorem steps_enclosed_override {b : String} (hb : IsFreeOf .overridePrompt b) :
    steps (enclosed .overridePrompt b)
      = [⟨0, "start overridePrompt", some .overrideStart, .override (strip b)⟩] := by
  have hopens : strip "start overridePrompt" = "start overridePrompt" := by decide +kernel
  have hlines : newlineSplit (enclosed .overridePrompt b)
      = "start overridePrompt" :: (newlineSplit b ++ ["end overridePrompt"]) := by
    rw [enclosed_overridePrompt, newlineSplit_append, newlineSplit_append]
    rfl
  have hbody : (newlineSplit b ++ ["end overridePrompt"]).takeWhile
      (fun line => !isOverrideEnd line) = newlineSplit b := by
    rw [List.takeWhile_append_of_pos fun line hline => by rw [isOverrideEnd_eq_false hb hline]; rfl,
      List.takeWhile_cons_of_neg (by decide +kernel), List.append_nil]
  have htaken : Action.ofStatement (some .overrideStart) "start overridePrompt"
      (newlineSplit b ++ ["end overridePrompt"])
        = (.override (strip b), (newlineSplit b).length + 1) := by
    simp only [Action.ofStatement, hbody, intercalate_newlineSplit]
  have hstatement : Statement.ofLine "start overridePrompt" = some .overrideStart := rfl
  rw [steps, hlines, stepsFrom_statement 0 _ (by decide +kernel), hopens, hstatement, htaken,
    List.drop_of_length_le (by simp), stepsFrom]

end AgentScript.Script
