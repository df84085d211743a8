import AgentScript.Proofs.Text.Word
import Mathlib.Data.List.Infix

set_option autoImplicit false

/-! # Where a word occurs

A search for a word finds it just in case it occurs in the text
(`splitAtMatch_matchText_eq_none_iff`). The first letter of the words that are searched for here
does not come again in them, so two occurrences never overlap: a text is cut in front of an
occurrence if and only if there is no earlier one (`splitAtMatch_append_word_iff`), and an
occurrence does not reach over the first letter of another one (`infix_append_cons_iff`). -/

namespace AgentScript.Text

variable {word s before rest : List Char}

/-! ## Searching for a word -/

/-- A word is found just in case it occurs. -/
theorem splitAtMatch_matchText_eq_none_iff :
    splitAtMatch (matchText word) s = none ↔ ¬ word <:+: s := by
  induction s with
  | nil =>
      cases word with
      | nil => simp [splitAtMatch, matchText]
      | cons w word => simp [splitAtMatch, matchText]
  | cons c s ih =>
      rw [splitAtMatch, List.infix_cons_iff, not_or, ← ih]
      cases hfront : matchText word (c :: s) with
      | some after =>
          have hstart : word <+: c :: s := ⟨after, (matchText_eq_some_iff.1 hfront).symm⟩
          simp [hstart]
      | none =>
          have hstart : ¬ word <+: c :: s := by
            rintro ⟨after, hafter⟩
            rw [matchText_eq_some_iff.2 hafter.symm] at hfront
            cases hfront
          simp [hstart]

theorem occursIn_iff {word text : String} :
    occursIn word text = true ↔ word.toList <:+: text.toList := by
  rw [occursIn, Option.isSome_iff_ne_none, ne_eq, splitAtMatch_matchText_eq_none_iff, not_not]

/-- The text is cut around an occurrence of the word. -/
theorem eq_append_of_splitAtMatch (h : splitAtMatch (matchText word) s = some (before, rest)) :
    s = before ++ (word ++ rest) := by
  induction s generalizing before with
  | nil =>
      obtain ⟨after, hafter, heq⟩ := Option.map_eq_some_iff.1 h
      cases heq
      rw [List.nil_append]
      exact matchText_eq_some_iff.1 hafter
  | cons c s ih =>
      rw [splitAtMatch] at h
      cases hfront : matchText word (c :: s) with
      | some after =>
          rw [hfront] at h
          cases h
          rw [List.nil_append]
          exact matchText_eq_some_iff.1 hfront
      | none =>
          rw [hfront] at h
          obtain ⟨⟨front, after⟩, hcut, heq⟩ := Option.map_eq_some_iff.1 h
          cases heq
          rw [ih hcut, List.cons_append]

/-! ## Words that do not overlap themselves -/

/-- A word whose first letter does not come again in it. -/
def StartsOnce : List Char → Prop
  | [] => False
  | w :: word => w ∉ word

instance (word : List Char) : Decidable (StartsOnce word) :=
  match word with
  | [] => inferInstanceAs (Decidable False)
  | w :: word => inferInstanceAs (Decidable (w ∉ word))

/-- No part at the end of the word begins like the word, unless it is the whole word. -/
theorem StartsOnce.eq_nil_of_append {w : Char} {tail front back more : List Char}
    (h : StartsOnce (w :: tail)) (hword : w :: tail = front ++ back) (hback : back ≠ [])
    (hhead : back <+: w :: more) : front = [] := by
  cases back with
  | nil => exact absurd rfl hback
  | cons b back =>
      obtain rfl : b = w := (List.cons_prefix_cons.1 hhead).1
      cases front with
      | nil => rfl
      | cons f front =>
          -- the first letter would come again where the end of the word begins
          obtain ⟨-, rfl⟩ := List.cons.inj hword
          exact absurd (List.mem_append_right front List.mem_cons_self) h

/-- A text is cut in front of an occurrence of the word just in case there is no earlier one. -/
theorem splitAtMatch_append_word_iff (h : StartsOnce word) :
    splitAtMatch (matchText word) (before ++ (word ++ rest)) = some (before, rest)
      ↔ ¬ word <:+: before := by
  cases word with
  | nil => exact absurd h id
  | cons w tail =>
      induction before with
      | nil =>
          have hfront : matchText (w :: tail) (w :: (tail ++ rest)) = some rest :=
            matchText_eq_some_iff.2 rfl
          show splitAtMatch (matchText (w :: tail)) (w :: (tail ++ rest)) = _ ↔ _
          rw [splitAtMatch, hfront]
          simp
      | cons c before ih =>
          rw [List.cons_append, splitAtMatch, List.infix_cons_iff, not_or, ← ih]
          cases hfront : matchText (w :: tail) (c :: (before ++ ((w :: tail) ++ rest))) with
          | some after =>
              have hstart : (w :: tail) <+: c :: before := by
                have hsplit : (c :: before) ++ ((w :: tail) ++ rest) = (w :: tail) ++ after :=
                  matchText_eq_some_iff.1 hfront
                rcases List.append_eq_append_iff.1 hsplit with
                  ⟨back, hword, hback⟩ | ⟨more, hmore, -⟩
                · -- the word would go on behind the front, where it begins once more
                  by_cases hnil : back = []
                  · subst hnil
                    rw [hword, List.append_nil]
                  · have hhead : back <+: w :: (tail ++ rest) := ⟨after, hback.symm⟩
                    cases h.eq_nil_of_append hword hnil hhead
                · exact ⟨more, hmore.symm⟩
              simp [hstart]
          | none =>
              have hstart : ¬ (w :: tail) <+: c :: before := by
                rintro ⟨more, hmore⟩
                have hsome : matchText (w :: tail) ((c :: before) ++ ((w :: tail) ++ rest))
                    = some (more ++ ((w :: tail) ++ rest)) := by
                  rw [matchText_eq_some_iff, ← hmore, List.append_assoc]
                rw [List.cons_append, hfront] at hsome
                cases hsome
              simp [hstart]

/-- A word does not reach over its own first letter. -/
theorem infix_append_cons_iff {w : Char} {tail u v : List Char} (h : StartsOnce (w :: tail)) :
    (w :: tail) <:+: u ++ w :: v ↔ (w :: tail) <:+: u ∨ (w :: tail) <:+: w :: v := by
  rw [List.infix_append_iff]
  constructor
  · rintro (hu | hv | ⟨front, back, hword, hfront, hback⟩)
    · exact .inl hu
    · exact .inr hv
    · by_cases hnil : back = []
      · rw [hword, hnil, List.append_nil]
        exact .inl hfront.isInfix
      · rw [hword, h.eq_nil_of_append hword hnil hback]
        exact .inr hback.isInfix
  · rintro (hu | hv)
    · exact .inl hu
    · exact .inr (.inl hv)

/-- A word does not reach over a character that it does not have. -/
theorem infix_append_of_not_mem {c : Char} {u v : List Char} (h : c ∉ word) :
    word <:+: u ++ c :: v ↔ word <:+: u ∨ word <:+: v := by
  rw [List.infix_append_iff, List.infix_cons_iff]
  constructor
  · rintro (hu | (hstart | hv) | ⟨front, back, rfl, hfront, hback⟩)
    · exact .inl hu
    · cases word with
      | nil => exact .inl ⟨[], u, rfl⟩
      | cons w word =>
          obtain rfl : w = c := (List.cons_prefix_cons.1 hstart).1
          exact absurd List.mem_cons_self h
    · exact .inr hv
    · cases back with
      | nil =>
          rw [List.append_nil]
          exact .inl hfront.isInfix
      | cons b back =>
          obtain rfl : b = c := (List.cons_prefix_cons.1 hback).1
          exact absurd (List.mem_append_right front List.mem_cons_self) h
  · rintro (hu | hv)
    · exact .inl hu
    · exact .inr (.inl (.inr hv))

/-- A word is not found where none of its characters are. -/
theorem eq_nil_of_infix_of_disjoint {u : List Char} (h : List.Disjoint word u)
    (hu : word <:+: u) : word = [] := by
  refine List.eq_nil_iff_forall_not_mem.2 fun c hc => ?_
  exact List.disjoint_left.1 h hc (hu.subset hc)

/-- A word does not reach into a text that has none of its characters in front of it. -/
theorem infix_append_of_disjoint_left {u v : List Char} (hne : word ≠ [])
    (h : List.Disjoint word u) : word <:+: u ++ v ↔ word <:+: v := by
  constructor
  · intro huv
    rcases List.infix_append_iff.1 huv with hu | hv | ⟨front, back, rfl, hfront, hback⟩
    · exact absurd (eq_nil_of_infix_of_disjoint h hu) hne
    · exact hv
    · obtain rfl : front = [] := eq_nil_of_infix_of_disjoint
        (List.disjoint_of_disjoint_append_left_left h) hfront.isInfix
      exact hback.isInfix
  · exact fun hv => hv.trans (List.suffix_append u v).isInfix

/-- A word does not reach into a text that has none of its characters behind it. -/
theorem infix_append_of_disjoint_right {u v : List Char} (hne : word ≠ [])
    (h : List.Disjoint word v) : word <:+: u ++ v ↔ word <:+: u := by
  constructor
  · intro huv
    rcases List.infix_append_iff.1 huv with hu | hv | ⟨front, back, rfl, hfront, hback⟩
    · exact hu
    · exact absurd (eq_nil_of_infix_of_disjoint h hv) hne
    · obtain rfl : back = [] := eq_nil_of_infix_of_disjoint
        (List.disjoint_of_disjoint_append_left_right h) hback.isInfix
      rw [List.append_nil]
      exact hfront.isInfix
  · exact fun hu => hu.trans (List.prefix_append u v).isInfix

/-! ## Cutting a text at a word -/

theorem cutAt_eq_none_iff {word text : String} :
    cutAt word text = none ↔ ¬ word.toList <:+: text.toList := by
  rw [cutAt, Option.map_eq_none_iff, splitAtMatch_matchText_eq_none_iff]

/-- What stands in front of the cut is the text up to the first occurrence of the word. -/
theorem cutAt_eq_some_iff {word text before rest : String} (h : StartsOnce word.toList) :
    cutAt word text = some (before, rest)
      ↔ text = before ++ word ++ rest ∧ ¬ word.toList <:+: before.toList := by
  rw [cutAt, Option.map_eq_some_iff]
  constructor
  · rintro ⟨⟨front, after⟩, hcut, heq⟩
    cases heq
    have htext := eq_append_of_splitAtMatch hcut
    rw [htext, splitAtMatch_append_word_iff h] at hcut
    rw [String.toList_ofList]
    refine ⟨?_, hcut⟩
    rw [← String.toList_inj, htext]
    simp [String.toList_append]
  · rintro ⟨rfl, hfirst⟩
    refine ⟨(before.toList, rest.toList), ?_, by simp [String.ofList_toList]⟩
    rw [String.toList_append, String.toList_append, List.append_assoc]
    exact (splitAtMatch_append_word_iff h).2 hfirst

end AgentScript.Text
