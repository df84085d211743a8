import AgentScript.Proofs.Text.Division
import AgentScript.Sandbox.Wrap

set_option autoImplicit false

/-! # The lines that are indented

Code is divided into lines by newlines and carriage returns, and `wrapCode` divides it into lines
that end at all marks of `splitLines`. So a line of code is left as it is behind its start just in
case nothing but blanks follows the first such mark in it (`wrapCode_isWrapped_iff`). A mark in the
middle of a string literal puts four spaces into it (`wrapCode_separator`). -/

namespace AgentScript.Sandbox

open Text (isBlank isLineEnd endsCodeLine splitLines codeLines)

/-! ## Indented lines -/

/-- A line is indented by four spaces, or has only blanks in it and is left as it is. -/
def IsIndented (line out : List Char) : Prop :=
  out = "    ".toList ++ line ∨ line.all isBlank ∧ out = line

/-- The second text is made of the lines, each of them indented. -/
inductive Indents : List (List Char) → List Char → Prop
  | nil : Indents [] []
  | cons {line out outs : List Char} {lines : List (List Char)} (hline : IsIndented line out)
      (hlines : Indents lines outs) : Indents (line :: lines) (out ++ outs)

/-- The function that the lines become once they are indented. -/
def IsWrapped (lines : List (List Char)) (wrapped : String) : Prop :=
  ∃ body : String, wrapped = "async def main():\n" ++ body ++ "\n" ∧ Indents lines body.toList

theorem eq_space_of_mem {c : Char} (h : c ∈ "    ".toList) : c = ' ' :=
  List.eq_of_mem_replicate (n := 4) h

theorem isIndented_indentLine (line : List Char) : IsIndented line (indentLine line) := by
  rw [indentLine]
  split
  · next hblank => exact .inr ⟨hblank, rfl⟩
  · exact .inl rfl

theorem endsCodeLine_spaces_append {line : List Char} (h : ∀ c ∈ line, endsCodeLine c = false) :
    ∀ c ∈ "    ".toList ++ line, endsCodeLine c = false :=
  List.forall_mem_append.2 ⟨fun _ hc => eq_space_of_mem hc ▸ rfl, h⟩

theorem IsIndented.exists_front {front mark out : List Char} (h : IsIndented (front ++ mark) out)
    (hfront : ∀ c ∈ front, endsCodeLine c = false) :
    ∃ front', (∀ c ∈ front', endsCodeLine c = false) ∧ out = front' ++ mark := by
  obtain rfl | ⟨-, rfl⟩ := h
  · exact ⟨"    ".toList ++ front, endsCodeLine_spaces_append hfront,
      (List.append_assoc _ front mark).symm⟩
  · exact ⟨front, hfront, rfl⟩

theorem indents_flatMap (lines : List (List Char)) : Indents lines (lines.flatMap indentLine) := by
  induction lines with
  | nil => exact .nil
  | cons line lines ih => exact .cons (isIndented_indentLine line) ih

theorem indents_singleton_iff {line out : List Char} :
    Indents [line] out ↔ IsIndented line out := by
  constructor
  · intro h
    cases h with
    | cons hline hlines =>
        cases hlines
        rwa [List.append_nil]
  · intro h
    rw [← List.append_nil out]
    exact .cons h .nil

theorem toList_wrapCode (code : String) : (wrapCode code).toList
    = "async def main():\n".toList ++ indentText code.toList ++ ['\n'] :=
  String.toList_ofList

theorem wrapCode_eq_iff {code body : String} : wrapCode code = "async def main():\n" ++ body ++ "\n"
    ↔ body.toList = indentText code.toList := by
  have hnewline : "\n".toList = ['\n'] := by decide
  rw [← String.toList_inj, toList_wrapCode, String.toList_append, String.toList_append, hnewline,
    List.append_left_inj, List.append_right_inj, eq_comm]

theorem isWrapped_wrapCode_iff {lines : List (List Char)} {code : String} :
    IsWrapped lines (wrapCode code) ↔ Indents lines (indentText code.toList) := by
  constructor
  · rintro ⟨body, heq, h⟩
    rwa [← wrapCode_eq_iff.1 heq]
  · intro h
    refine ⟨String.ofList (indentText code.toList), wrapCode_eq_iff.2 String.toList_ofList, ?_⟩
    rwa [String.toList_ofList]

/-! ## One line -/

theorem indentLine_of_blank {line : List Char} (h : line.all isBlank) : indentLine line = line :=
  if_pos h

theorem indentLine_of_not_blank {line : List Char} (h : ¬ line.all isBlank) :
    indentLine line = "    ".toList ++ line :=
  if_neg h

theorem indentLine_append_blanks {blanks : List Char} (h : blanks.all isBlank) (line : List Char) :
    indentLine (line ++ blanks) = indentLine line ++ blanks := by
  rw [indentLine, indentLine, List.all_append, h, Bool.and_true]
  split
  · rfl
  · rw [List.append_assoc]

theorem endsCodeLine_indentLine {line : List Char} (h : ∀ c ∈ line, endsCodeLine c = false) :
    ∀ c ∈ indentLine line, endsCodeLine c = false := by
  rw [indentLine]
  split
  · exact h
  · exact endsCodeLine_spaces_append h

theorem length_le_indentLine (line : List Char) : line.length ≤ (indentLine line).length := by
  rw [indentLine]
  split
  · exact le_rfl
  · rw [List.length_append]
    exact Nat.le_add_left _ _

theorem length_flatten_le (lines : List (List Char)) :
    lines.flatten.length ≤ (lines.flatMap indentLine).length := by
  induction lines with
  | nil => exact le_rfl
  | cons line lines ih =>
      rw [List.flatten_cons, List.flatMap_cons, List.length_append, List.length_append]
      exact Nat.add_le_add (length_le_indentLine line) ih

/-- Lines stay as they are just in case there is nothing in them. -/
theorem flatMap_indentLine_eq_iff {lines : List (List Char)} :
    lines.flatMap indentLine = lines.flatten ↔ lines.flatten.all isBlank := by
  induction lines with
  | nil => exact iff_of_true rfl rfl
  | cons line lines ih =>
      rw [List.flatMap_cons, List.flatten_cons, List.all_append, Bool.and_eq_true, ← ih]
      by_cases hline : line.all isBlank
      · rw [indentLine_of_blank hline, List.append_right_inj]
        exact (and_iff_right hline).symm
      · constructor
        · intro heq
          -- four characters are added to this line, and none are taken from the others
          have hlength := congrArg List.length heq
          have hle := length_flatten_le lines
          have hspaces : "    ".toList.length = 4 := rfl
          rw [indentLine_of_not_blank hline] at hlength
          simp only [List.length_append] at hlength
          omega
        · intro h
          exact absurd h.1 hline

/-- A line of code is indented as one line just in case nothing but blanks follows the first mark in
    it. The first of the lines that it is divided into is the only one that may hold anything. -/
theorem isIndented_indentText_iff (line : List Char) :
    IsIndented line (indentText line)
      ↔ (line.dropWhile fun c => !isLineEnd c).all isBlank := by
  have hdivided := Text.divided_splitLines line
  rw [indentText]
  generalize splitLines line = lines at hdivided
  cases hdivided with
  | nil => exact iff_of_true (.inr ⟨rfl, rfl⟩) rfl
  | last hline =>
      have htail : line.dropWhile (fun c => !isLineEnd c) = [] :=
        List.dropWhile_eq_nil_iff.2 (by simpa using hline)
      rw [htail, List.flatMap_singleton]
      exact iff_of_true (isIndented_indentLine line) rfl
  | @next front mark rest lines hfront hmark hrest =>
      have hlines : lines.flatMap indentLine = rest ↔ rest.all isBlank := by
        rw [← hrest.flatten]
        exact flatMap_indentLine_eq_iff
      rw [hmark.dropWhile_append rfl hfront, List.all_append, hmark.all_isBlank, Bool.true_and,
        ← hlines, List.flatMap_cons]
      by_cases hfirst : (front ++ mark).all isBlank
      · rw [indentLine_of_blank hfirst]
        constructor
        · rintro (h | ⟨-, h⟩)
          · -- the spaces would stand in front of the first mark
            have hspaces : ∀ c ∈ "    ".toList ++ front, isLineEnd c = false :=
              List.forall_mem_append.2 ⟨fun _ hc => eq_space_of_mem hc ▸ rfl, hfront⟩
            rw [← List.append_assoc, ← List.append_assoc] at h
            have hfront' := (hmark.append_inj rfl hfront hspaces h).1
            cases List.self_eq_append_left.1 hfront'
          · exact List.append_cancel_left h
        · intro h
          have hblank : (front ++ mark ++ rest).all isBlank := by
            rw [List.all_append, hfirst, hlines.1 h, Bool.and_self]
          exact .inr ⟨hblank, by rw [h]⟩
      · rw [indentLine_of_not_blank hfirst, IsIndented, List.append_assoc, List.append_right_inj,
          List.append_right_inj, or_iff_left]
        rintro ⟨hblank, -⟩
        rw [List.all_append, Bool.and_eq_true] at hblank
        exact hfirst hblank.1

/-! ## All lines of the code -/

/-- Up to its mark, a line of code is indented without regard to what follows. -/
theorem exists_indentText_append {front : List Char}
    (hfront : ∀ c ∈ front, endsCodeLine c = false) :
    ∃ out, (∀ c ∈ out, endsCodeLine c = false) ∧ ∀ mark rest, Text.IsMark endsCodeLine mark rest →
      indentText (front ++ mark ++ rest) = out ++ mark ++ indentText rest := by
  obtain ⟨pieces, last, rfl, hsplit⟩ := Text.exists_splitLines_append hfront
  obtain ⟨hpieces, hlast⟩ := List.forall_mem_append.1 hfront
  refine ⟨pieces.flatMap indentLine ++ indentLine last, ?_, ?_⟩
  · refine List.forall_mem_append.2 ⟨?_, endsCodeLine_indentLine hlast⟩
    intro c hc
    obtain ⟨piece, hpiece, hc⟩ := List.mem_flatMap.1 hc
    have hplain : ∀ d ∈ piece, endsCodeLine d = false := fun d hd =>
      hpieces d (List.mem_flatten.2 ⟨piece, hpiece, hd⟩)
    exact endsCodeLine_indentLine hplain c hc
  · intro mark rest hmark
    have hwide := hmark.mono Text.isLineEnd_of_endsCodeLine
    rw [indentText, hsplit mark rest hwide, List.flatMap_append, List.flatMap_cons,
      indentLine_append_blanks hwide.all_isBlank, indentText]
    simp only [List.append_assoc]

/-- The code is indented line by line just in case each of its lines is. -/
theorem indents_indentText_iff {code : List Char} {lines : List (List Char)}
    (h : Text.Divided endsCodeLine code lines) :
    Indents lines (indentText code) ↔ ∀ line ∈ lines, IsIndented line (indentText line) := by
  induction h with
  | nil => exact iff_of_true .nil (List.forall_mem_nil _)
  | last hline => rw [indents_singleton_iff, List.forall_mem_singleton]
  | @next front mark rest lines hfront hmark hrest ih =>
      obtain ⟨out, hout, hindent⟩ := exists_indentText_append hfront
      have hline : indentText (front ++ mark) = out ++ mark := by
        have halone := hindent mark [] hmark.alone
        rwa [List.append_nil, indentText.eq_def [], Text.splitLines, List.flatMap_nil,
          List.append_nil] at halone
      rw [List.forall_mem_cons, ← ih, hline, hindent mark rest hmark]
      constructor
      · intro h
        generalize hwhole : out ++ mark ++ indentText rest = whole at h
        cases h with
        | @cons _ part outs _ hpart houts =>
            -- the part ends with the mark as well, so it is what the first line becomes
            obtain ⟨front', hfront', rfl⟩ := hpart.exists_front hfront
            obtain ⟨rfl, rfl⟩ := hmark.append_inj rfl hout hfront' hwhole
            exact ⟨hpart, houts⟩
      · intro h
        exact .cons h.1 h.2

theorem isWrapped_codeLines_iff {code : String} :
    IsWrapped (codeLines code.toList) (wrapCode code)
      ↔ ∀ line ∈ codeLines code.toList, (line.dropWhile fun c => !isLineEnd c).all isBlank := by
  rw [isWrapped_wrapCode_iff, indents_indentText_iff (Text.divided_codeLines _)]
  simp only [isIndented_indentText_iff]

/-- Code is indented at the starts of lines only, where lines end at any mark of `splitLines`; no
    other character is put in, taken out or changed, and each line that holds anything is indented.
    The same is true of the code's own lines just in case nothing but blanks follows the first such
    mark in any of them. -/
theorem wrapCode_isWrapped_iff (code : String) :
    ((splitLines code.toList).flatten = code.toList
        ∧ IsWrapped (splitLines code.toList) (wrapCode code))
      ∧ (codeLines code.toList).flatten = code.toList
      ∧ (IsWrapped (codeLines code.toList) (wrapCode code)
        ↔ ∀ line ∈ codeLines code.toList, (line.dropWhile fun c => !isLineEnd c).all isBlank) := by
  refine ⟨⟨(Text.divided_splitLines _).flatten, ?_⟩, (Text.divided_codeLines _).flatten,
    isWrapped_codeLines_iff⟩
  exact isWrapped_wrapCode_iff.2 (indents_flatMap _)

/-- A line separator in a string literal does not end the line of code. The literal has four more
    characters once the code is wrapped. -/
theorem wrapCode_separator :
    codeLines "x = 'a\u2028b'".toList = ["x = 'a\u2028b'".toList]
      ∧ wrapCode "x = 'a\u2028b'" = "async def main():\n    x = 'a\u2028    b'\n"
      ∧ ¬ IsWrapped (codeLines "x = 'a\u2028b'".toList) (wrapCode "x = 'a\u2028b'") := by
  refine ⟨by decide, by decide +kernel, ?_⟩
  rw [isWrapped_codeLines_iff]
  decide

/-- Blank lines are not indented, whichever mark ends them, and blanks after a mark stay. -/
example : wrapCode "if x:\r\n\r  y = 1\u2028 \n" =
    "async def main():\n    if x:\r\n\r      y = 1\u2028 \n\n" := by
  decide +kernel

end AgentScript.Sandbox
