import AgentScript.Command.Reader
import AgentScript.Proofs.Text.Search

set_option autoImplicit false

/-! # The code of a call

The inputs of `execute` are listed after its code, behind a mark. The code is cut at the first mark
of the spelling that is tried first, or else at the first one of the other spelling (`CodeIn`),
wherever the mark stands and whatever follows it. So the list of inputs is taken off and nothing
else just when the code itself has no such mark (`ofCall_execute_iff`), and code that has one loses
what comes after it (`ofCall_execute_keywordArgument`). -/

namespace AgentScript.Command

open Text

/-- A mark stands somewhere in a text. -/
def HasMark (mark text : String) : Prop :=
  mark.toList <:+: text.toList

/-- The code in the arguments of a call. -/
inductive CodeIn (arguments : String) : String → Prop where
  | spaced {code rest : String} (hcut : arguments = code ++ ", inputs=" ++ rest)
      (hfirst : ¬ HasMark ", inputs=" code) : CodeIn arguments code
  | close {code rest : String} (hspaced : ¬ HasMark ", inputs=" arguments)
      (hcut : arguments = code ++ ",inputs=" ++ rest) (hfirst : ¬ HasMark ",inputs=" code) :
      CodeIn arguments code
  | whole (hspaced : ¬ HasMark ", inputs=" arguments) (hclose : ¬ HasMark ",inputs=" arguments) :
      CodeIn arguments arguments

theorem startsOnce_spaced : StartsOnce ", inputs=".toList := by
  decide

theorem startsOnce_close : StartsOnce ",inputs=".toList := by
  decide

theorem codeBeforeInputs_eq_iff {arguments code : String} :
    codeBeforeInputs arguments = code ↔ CodeIn arguments code := by
  have hmarks : inputMarks.findSome? (fun mark => cutAt mark arguments)
      = (cutAt ", inputs=" arguments).or (cutAt ",inputs=" arguments) := by
    simp only [inputMarks, List.findSome?]
    cases cutAt ", inputs=" arguments <;> cases cutAt ",inputs=" arguments <;> rfl
  rw [codeBeforeInputs, hmarks]
  constructor
  · rintro rfl
    cases hspaced : cutAt ", inputs=" arguments with
    | some cut =>
        obtain ⟨hcut, hfirst⟩ := (cutAt_eq_some_iff startsOnce_spaced).1 hspaced
        exact .spaced hcut hfirst
    | none =>
        rw [cutAt_eq_none_iff] at hspaced
        cases hclose : cutAt ",inputs=" arguments with
        | some cut =>
            obtain ⟨hcut, hfirst⟩ := (cutAt_eq_some_iff startsOnce_close).1 hclose
            exact .close hspaced hcut hfirst
        | none => exact .whole hspaced (cutAt_eq_none_iff.1 hclose)
  · intro h
    cases h with
    | spaced hcut hfirst =>
        rw [(cutAt_eq_some_iff startsOnce_spaced).2 ⟨hcut, hfirst⟩]
        rfl
    | close hspaced hcut hfirst =>
        rw [cutAt_eq_none_iff.2 hspaced, (cutAt_eq_some_iff startsOnce_close).2 ⟨hcut, hfirst⟩]
        rfl
    | whole hspaced hclose =>
        rw [cutAt_eq_none_iff.2 hspaced, cutAt_eq_none_iff.2 hclose]
        rfl

/-! ## Calls with a list of inputs -/

/-- The arguments of a call that lists inputs after its code. -/
def withInputs (code mark inputs : String) : String :=
  code ++ mark ++ ("[" ++ inputs ++ "]")

/-- The marks that are tried first in the arguments of a call are those in its code and those in the
    list: none of them has a part in the mark of the other spelling. -/
theorem hasMark_withInputs_close {code inputs : String} :
    HasMark ", inputs=" (withInputs code ",inputs=" inputs)
      ↔ HasMark ", inputs=" code ∨ HasMark ", inputs=" inputs := by
  have hchars : (withInputs code ",inputs=" inputs).toList
      = (code.toList ++ ',' :: "inputs=".toList) ++ '[' :: (inputs.toList ++ ']' :: []) := by
    simp [withInputs, String.toList_append]
  have hstarts : StartsOnce (',' :: " inputs=".toList) := by decide
  have hother : ¬ ", inputs=".toList <:+: ',' :: "inputs=".toList := by decide
  have hend : ¬ ", inputs=".toList <:+: [] := by decide
  have hcode : ", inputs=".toList <:+: code.toList ++ ',' :: "inputs=".toList
      ↔ HasMark ", inputs=" code := by
    refine (infix_append_cons_iff hstarts).trans ?_
    exact or_iff_left hother
  have hlist : ", inputs=".toList <:+: inputs.toList ++ ']' :: []
      ↔ HasMark ", inputs=" inputs := by
    rw [infix_append_of_not_mem (by decide)]
    exact or_iff_left hend
  rw [HasMark, hchars, infix_append_of_not_mem (by decide), hcode, hlist]

/-- A text with a mark after it is another text. -/
theorem append_mark_ne {mark : String} (hmark : mark ≠ "") (code rest : String) :
    code ++ mark ++ rest ≠ code := by
  intro heq
  have hlength := congrArg String.length heq
  simp only [String.length_append] at hlength
  have hpos : mark.length ≠ 0 := fun hzero => hmark (String.length_eq_zero_iff.1 hzero)
  omega

theorem close_ne_spaced (u v : String) : ",inputs=" ++ u ≠ ", inputs=" ++ v := by
  intro heq
  have hchars := congrArg String.toList heq
  simp [String.toList_append] at hchars

/-- Arguments without a mark are all code. -/
theorem codeIn_self_iff {code : String} :
    CodeIn code code ↔ ¬ HasMark ", inputs=" code ∧ ¬ HasMark ",inputs=" code := by
  constructor
  · intro h
    cases h with
    | spaced hcut hfirst => exact absurd hcut.symm (append_mark_ne (by decide) _ _)
    | close hspaced hcut hfirst => exact absurd hcut.symm (append_mark_ne (by decide) _ _)
    | whole hspaced hclose => exact ⟨hspaced, hclose⟩
  · rintro ⟨hspaced, hclose⟩
    exact .whole hspaced hclose

theorem hasMark_withInputs (code mark inputs : String) :
    HasMark mark (withInputs code mark inputs) := by
  rw [HasMark, withInputs, String.toList_append, String.toList_append]
  exact List.infix_append _ _ _

/-- The code in front of a list of inputs behind the mark that is tried first. -/
theorem codeIn_withInputs_spaced_iff {code inputs : String} :
    CodeIn (withInputs code ", inputs=" inputs) code ↔ ¬ HasMark ", inputs=" code := by
  constructor
  · intro h
    have hmark := hasMark_withInputs code ", inputs=" inputs
    generalize harguments : withInputs code ", inputs=" inputs = arguments at h hmark
    cases h with
    | spaced hcut hfirst => exact hfirst
    | close hspaced hcut hfirst => exact absurd hmark hspaced
    | whole hspaced hclose => exact absurd hmark hspaced
  · intro hfirst
    exact .spaced rfl hfirst

/-- The code in front of a list of inputs behind the other mark. -/
theorem codeIn_withInputs_close_iff {code inputs : String} :
    CodeIn (withInputs code ",inputs=" inputs) code
      ↔ ¬ HasMark ",inputs=" code ∧ ¬ HasMark ", inputs=" code ∧ ¬ HasMark ", inputs=" inputs := by
  have hiff := @hasMark_withInputs_close code inputs
  constructor
  · intro h
    have hmark := hasMark_withInputs code ",inputs=" inputs
    generalize harguments : withInputs code ",inputs=" inputs = arguments at h hmark hiff
    cases h with
    | @spaced _ rest hcut hfirst =>
        -- what comes after the code would begin with both marks
        rw [hcut, withInputs, @String.append_assoc code, @String.append_assoc code] at harguments
        exact absurd ((String.append_right_inj code).1 harguments) (close_ne_spaced _ rest)
    | close hspaced hcut hfirst => exact ⟨hfirst, not_or.1 (mt hiff.2 hspaced)⟩
    | whole hspaced hclose => exact absurd hmark hclose
  · rintro ⟨hfirst, hcode, hinputs⟩
    exact .close (mt hiff.1 (not_or.2 ⟨hcode, hinputs⟩)) rfl hfirst

/-! ## The call -/

theorem ofCall_execute_eq_iff {arguments code : String} :
    ofCall "execute" arguments = .ok (.execute code) ↔ CodeIn arguments code := by
  rw [← codeBeforeInputs_eq_iff]
  show Except.ok (Command.execute (codeBeforeInputs arguments)) = _ ↔ _
  rw [Except.ok.injEq, Command.execute.injEq]

/-- The code of a call is cut at the first mark that stands anywhere in the arguments. So a list of
    inputs is taken off after its code, and code without a list is kept, just in case the code has
    no mark itself; if the list is behind the mark that is tried last, the other one must not stand
    in the list either. -/
theorem ofCall_execute_iff (code inputs : String) :
    (∀ arguments, ofCall "execute" arguments = .ok (.execute code) ↔ CodeIn arguments code)
      ∧ (ofCall "execute" (withInputs code ", inputs=" inputs) = .ok (.execute code)
        ↔ ¬ HasMark ", inputs=" code)
      ∧ (ofCall "execute" (withInputs code ",inputs=" inputs) = .ok (.execute code)
        ↔ ¬ HasMark ",inputs=" code ∧ ¬ HasMark ", inputs=" code ∧ ¬ HasMark ", inputs=" inputs)
      ∧ (ofCall "execute" code = .ok (.execute code)
        ↔ ¬ HasMark ", inputs=" code ∧ ¬ HasMark ",inputs=" code) := by
  refine ⟨fun arguments => ofCall_execute_eq_iff, ?_, ?_, ?_⟩
  · rw [ofCall_execute_eq_iff, codeIn_withInputs_spaced_iff]
  · rw [ofCall_execute_eq_iff, codeIn_withInputs_close_iff]
  · rw [ofCall_execute_eq_iff, codeIn_self_iff]

/-- A text ends in a list of inputs, behind either mark, with nothing but blanks after it. -/
def EndsInInputs (text : String) : Prop :=
  ∃ code mark inputs blanks, mark ∈ inputMarks ∧ (∀ c ∈ inputs.toList, c ∉ "()[]".toList)
    ∧ (∀ c ∈ blanks.toList, isBlank c) ∧ text = withInputs code mark inputs ++ blanks

/-- Code that has no list of inputs after it, but a keyword argument of that name in it. -/
def keywordCode : String :=
  "return dict(a=1, inputs=[2])"

/-- Code with a keyword argument that reads like a mark is cut there. -/
theorem ofCall_execute_keywordArgument :
    ¬ EndsInInputs keywordCode
      ∧ ofCall "execute" keywordCode = .ok (.execute "return dict(a=1") := by
  refine ⟨?_, rfl⟩
  rintro ⟨code, mark, inputs, blanks, -, -, hblanks, htext⟩
  have hchars : keywordCode.toList
      = (code ++ mark ++ "[" ++ inputs).toList ++ (']' :: blanks.toList) := by
    rw [htext]
    simp [withInputs, String.toList_append]
  -- the last character is neither the bracket nor a blank
  have hlast : keywordCode.toList.getLast? = some ')' := by decide
  rw [hchars, List.getLast?_append_of_ne_nil _ (List.cons_ne_nil _ _)] at hlast
  rcases List.mem_cons.1 (List.mem_of_getLast? hlast) with hbracket | hblank
  · exact absurd hbracket (by decide)
  · exact absurd (hblanks ')' hblank) (by decide)

end AgentScript.Command
