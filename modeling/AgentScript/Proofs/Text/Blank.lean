import AgentScript.Text.Blank
import Mathlib.Data.List.Infix
import Mathlib.Data.List.TakeWhile

set_option autoImplicit false

/-! # Blanks around a text

Taking the blanks off a text undoes putting blanks around it. A text that is its own `stripChars`
ends in no blank, and one that begins and ends in no blank is its own `stripChars`. Joining line
ends goes line by line, as long as no carriage return stands before a newline
(`joinLineEnds_append`). -/

namespace AgentScript.Text

/-! ## Blanks at the ends -/

theorem not_isBlank_of_stripChars {s u : List Char} {c : Char} (h : stripChars s = u ++ [c]) :
    isBlank c = false := by
  have hhead := List.head?_dropWhile_not isBlank (s.dropWhile isBlank).reverse
  have hreverse := congrArg List.reverse h
  rw [stripChars, dropBlanksRight, List.reverse_reverse, List.reverse_append] at hreverse
  rw [hreverse] at hhead
  exact hhead

/-- A text that neither begins nor ends with a blank has none to take off. -/
theorem stripChars_of_ends {c d : Char} (hc : isBlank c = false) (hd : isBlank d = false)
    (s : List Char) : stripChars (c :: (s ++ [d])) = c :: (s ++ [d]) := by
  rw [stripChars, List.dropWhile_cons_of_neg (by simp [hc]), dropBlanksRight, ← List.cons_append,
    List.reverse_append, List.reverse_singleton, List.singleton_append,
    List.dropWhile_cons_of_neg (by simp [hd]), List.reverse_cons, List.reverse_reverse]

theorem stripChars_blanks_append {u : List Char} (hu : ∀ c ∈ u, isBlank c) (s : List Char) :
    stripChars (u ++ s) = stripChars s := by
  rw [stripChars, List.dropWhile_append_of_pos hu, stripChars]

theorem dropBlanksRight_append_blanks {u : List Char} (hu : ∀ c ∈ u, isBlank c) (s : List Char) :
    dropBlanksRight (s ++ u) = dropBlanksRight s := by
  rw [dropBlanksRight, List.reverse_append, List.dropWhile_append_of_pos, dropBlanksRight]
  exact fun c hc => hu c (List.mem_reverse.1 hc)

theorem stripChars_append_blanks {u : List Char} (hu : ∀ c ∈ u, isBlank c) (s : List Char) :
    stripChars (s ++ u) = stripChars s := by
  rw [stripChars, stripChars, List.dropWhile_append]
  split
  · next hs =>
      -- there are blanks only
      rw [List.isEmpty_iff.1 hs, List.dropWhile_eq_nil_iff.2 hu]
  · exact dropBlanksRight_append_blanks hu _

theorem stripChars_newlines (s : List Char) :
    stripChars ('\n' :: (s ++ ['\n'])) = stripChars s := by
  have hnewline : ∀ c ∈ ['\n'], isBlank c := List.forall_mem_singleton.2 (by decide)
  exact (stripChars_blanks_append hnewline _).trans (stripChars_append_blanks hnewline s)

theorem stripChars_isInfix (s : List Char) : stripChars s <:+: s := by
  have hright : stripChars s <+: s.dropWhile isBlank := by
    rw [stripChars, dropBlanksRight, ← List.reverse_suffix, List.reverse_reverse]
    exact List.dropWhile_suffix isBlank
  exact hright.isInfix.trans (List.dropWhile_suffix isBlank).isInfix

theorem dropBlanksRight_append (s : List Char) :
    dropBlanksRight s ++ (s.reverse.takeWhile isBlank).reverse = s := by
  rw [dropBlanksRight, ← List.reverse_append, List.takeWhile_append_dropWhile, List.reverse_reverse]

/-- What is left has no more blanks to take off. -/
theorem stripChars_stripChars (s : List Char) : stripChars (stripChars s) = stripChars s := by
  have hfront : ∀ c ∈ s.takeWhile isBlank, isBlank c := fun _ hc => List.mem_takeWhile_imp hc
  have hback : ∀ c ∈ ((s.dropWhile isBlank).reverse.takeWhile isBlank).reverse, isBlank c :=
    fun _ hc => List.mem_takeWhile_imp (List.mem_reverse.1 hc)
  conv_rhs =>
    rw [← List.takeWhile_append_dropWhile (p := isBlank) (l := s), stripChars_blanks_append hfront,
      ← dropBlanksRight_append (s.dropWhile isBlank), stripChars_append_blanks hback]
  rfl

theorem strip_strip (s : String) : strip (strip s) = strip s := by
  rw [strip, strip, String.toList_ofList, stripChars_stripChars]

theorem stripChars_eq_nil_iff {s : List Char} : stripChars s = [] ↔ s.all isBlank := by
  rw [stripChars, dropBlanksRight, List.reverse_eq_nil_iff, List.dropWhile_eq_nil_iff,
    List.all_eq_true]
  refine ⟨fun h => ?_, fun h c hc =>
    h c ((List.dropWhile_suffix isBlank).subset (List.mem_reverse.1 hc))⟩
  -- what is left after the blanks in front would begin with one more blank
  have hnil : s.dropWhile isBlank = [] := by
    have hhead := List.head?_dropWhile_not isBlank s
    cases hs : s.dropWhile isBlank with
    | nil => rfl
    | cons c rest =>
        rw [hs] at hhead h
        have hblank := h c (List.mem_reverse.2 List.mem_cons_self)
        exact absurd (hblank.symm.trans hhead) (by decide)
  exact List.dropWhile_eq_nil_iff.1 hnil

theorem strip_eq_empty_iff {s : String} : strip s = "" ↔ s.toList.all isBlank := by
  rw [← stripChars_eq_nil_iff, ← String.toList_inj, strip, String.toList_ofList]
  rfl

/-! ## Line ends -/

theorem joinLineEnds_cons {c : Char} {s : List Char} (h : ¬ ['\r', '\n'] <+: c :: s) :
    joinLineEnds (c :: s) = c :: joinLineEnds s := by
  rw [joinLineEnds]
  rintro rest rfl rfl
  exact h ⟨rest, rfl⟩

/-- Up to the end of a line, nothing is joined if no carriage return stands before a newline. -/
theorem joinLineEnds_append {u : List Char} (h : ¬ ['\r', '\n'] <:+: u ++ ['\n']) (v : List Char) :
    joinLineEnds (u ++ '\n' :: v) = u ++ '\n' :: joinLineEnds v := by
  induction u with
  | nil => exact joinLineEnds_cons (by simp)
  | cons c u ih =>
      have htail : ¬ ['\r', '\n'] <:+: u ++ ['\n'] := fun htail =>
        h (htail.trans (List.suffix_cons c _).isInfix)
      have hhead : ¬ ['\r', '\n'] <+: c :: (u ++ '\n' :: v) := by
        intro hprefix
        have hline : (c :: u) ++ ['\n'] <+: c :: (u ++ '\n' :: v) := ⟨v, by simp⟩
        exact h (List.prefix_of_prefix_length_le hprefix hline (by simp)).isInfix
      rw [List.cons_append, joinLineEnds_cons hhead, ih htail, List.cons_append]

end AgentScript.Text
