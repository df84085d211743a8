import AgentScript.Text.Blank

set_option autoImplicit false

/-! # Lines of joined texts

Dividing a text at a mark undoes joining two texts with that mark: the pieces of the whole are the
pieces of the first text followed by those of the second. So lines that are joined by newlines are
found again (`newlineSplit_intercalate`), and the lines of a text make up the text
(`intercalate_newlineSplit`). -/

namespace AgentScript.Text

theorem consToHead_append (c : Char) {pieces : List (List Char)} (h : pieces ≠ [])
    (more : List (List Char)) :
    consToHead c (pieces ++ more) = consToHead c pieces ++ more := by
  cases pieces with
  | nil => exact absurd rfl h
  | cons piece rest => rfl

theorem splitOnChar_ne_nil (mark : Char) (s : List Char) : splitOnChar mark s ≠ [] := by
  induction s with
  | nil => simp [splitOnChar]
  | cons c rest ih =>
      rw [splitOnChar]
      split
      · simp
      · cases hp : splitOnChar mark rest with
        | nil => exact absurd hp ih
        | cons piece pieces => simp [consToHead]

/-- The first piece of a text is what stands before the first mark. -/
theorem splitOnChar_eq_cons (mark : Char) (s : List Char) :
    ∃ rest, splitOnChar mark s = s.takeWhile (· != mark) :: rest := by
  induction s with
  | nil => exact ⟨[], rfl⟩
  | cons x s ih =>
      obtain ⟨rest, hrest⟩ := ih
      rw [splitOnChar]
      by_cases hx : x = mark
      · exact ⟨splitOnChar mark s, by simp [hx]⟩
      · exact ⟨rest, by simp [hx, hrest, consToHead]⟩

/-- The pieces of two texts with the mark between them. -/
theorem splitOnChar_append (mark : Char) (s t : List Char) :
    splitOnChar mark (s ++ mark :: t) = splitOnChar mark s ++ splitOnChar mark t := by
  induction s with
  | nil => simp [splitOnChar]
  | cons c rest ih =>
      rw [List.cons_append, splitOnChar, splitOnChar, ih]
      split
      · rfl
      · exact consToHead_append c (splitOnChar_ne_nil mark rest) _

/-- The lines of two texts with a newline between them. -/
theorem newlineSplit_append (s t : String) :
    newlineSplit (s ++ "\n" ++ t) = newlineSplit s ++ newlineSplit t := by
  have hchars : (s ++ "\n" ++ t).toList = s.toList ++ '\n' :: t.toList := by
    simp [String.toList_append]
  rw [newlineSplit, hchars, splitOnChar_append, List.map_append]
  rfl

/-! ## Dividing undoes joining -/

theorem splitOnChar_of_not_mem {mark : Char} {s : List Char} (h : mark ∉ s) :
    splitOnChar mark s = [s] := by
  induction s with
  | nil => rfl
  | cons c rest ih =>
      obtain ⟨hc, hrest⟩ := not_or.1 (mt List.mem_cons.2 h)
      rw [splitOnChar, if_neg (by simpa using Ne.symm hc), ih hrest, consToHead]

/-- A text without newlines is a single line. -/
theorem newlineSplit_of_not_mem {s : String} (h : '\n' ∉ s.toList) : newlineSplit s = [s] := by
  rw [newlineSplit, splitOnChar_of_not_mem h, List.map_singleton, String.ofList_toList]

theorem newlineSplit_intercalate {lines : List String} (hne : lines ≠ [])
    (h : ∀ line ∈ lines, '\n' ∉ line.toList) : newlineSplit ("\n".intercalate lines) = lines := by
  induction lines with
  | nil => exact absurd rfl hne
  | cons line rest ih =>
      have hline := newlineSplit_of_not_mem (h line List.mem_cons_self)
      cases rest with
      | nil => rw [String.intercalate_singleton, hline]
      | cons next rest =>
          rw [String.intercalate_cons_cons, newlineSplit_append, hline,
            ih (List.cons_ne_nil _ _) fun l hl => h l (List.mem_cons_of_mem _ hl),
            List.singleton_append]

/-! ## Joining undoes dividing -/

theorem intercalate_splitOnChar (mark : Char) (s : List Char) :
    [mark].intercalate (splitOnChar mark s) = s := by
  induction s with
  | nil => rfl
  | cons c rest ih =>
      rw [splitOnChar]
      cases hp : splitOnChar mark rest with
      | nil => exact absurd hp (splitOnChar_ne_nil mark rest)
      | cons piece pieces =>
          rw [hp] at ih
          split
          · next hc =>
              rw [List.intercalate_cons_cons, ih, beq_iff_eq.1 hc]
              rfl
          · have hhead : [mark].intercalate ((c :: piece) :: pieces)
                = c :: [mark].intercalate (piece :: pieces) := by
              cases pieces <;> rfl
            rw [consToHead, hhead, ih]

theorem intercalate_newlineSplit (s : String) : "\n".intercalate (newlineSplit s) = s := by
  rw [← String.toList_inj, String.toList_intercalate, newlineSplit, List.map_map]
  have hid : String.toList ∘ String.ofList = id := funext fun _ => String.toList_ofList
  rw [hid, List.map_id]
  exact intercalate_splitOnChar '\n' s.toList

theorem infix_intercalate {α : Type} (mark : List α) {piece : List α} {pieces : List (List α)}
    (h : piece ∈ pieces) : piece <:+: mark.intercalate pieces := by
  induction pieces with
  | nil => cases h
  | cons first rest ih =>
      cases rest with
      | nil =>
          have hpiece : piece = mark.intercalate [first] := by
            rw [List.intercalate_singleton]
            exact List.mem_singleton.1 h
          exact hpiece ▸ List.infix_refl piece
      | cons next rest =>
          rw [List.intercalate_cons_cons]
          rcases List.mem_cons.1 h with rfl | h
          · rw [List.append_assoc]
            exact (List.prefix_append _ _).isInfix
          · exact (ih h).trans (List.suffix_append _ _).isInfix

/-- Every line of a text is a part of it. -/
theorem infix_of_mem_newlineSplit {s line : String} (h : line ∈ newlineSplit s) :
    line.toList <:+: s.toList := by
  have hjoin := congrArg String.toList (intercalate_newlineSplit s)
  rw [String.toList_intercalate] at hjoin
  rw [← hjoin]
  exact infix_intercalate _ (List.mem_map_of_mem h)

end AgentScript.Text
