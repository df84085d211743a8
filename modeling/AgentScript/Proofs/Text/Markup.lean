import AgentScript.Text.Markup
import Mathlib.Data.List.Infix

set_option autoImplicit false

/-! # Text inside markup, read back

A text that is escaped holds no markup of its own (`escapeMarkup_isInert`), and putting the
characters back in the place of their entities, from the left, gives the text again
(`unescapeMarkup_escapeMarkup`). -/

namespace AgentScript.Text

/-- The entities of the three characters. -/
def markupEntities : List String := ["&amp;", "&lt;", "&gt;"]

/-- A text in which nothing is markup: it has no angle brackets, and each of its ampersands begins
    an entity. -/
structure IsInert (s : String) : Prop where
  opening : '<' ∉ s.toList
  closing : '>' ∉ s.toList
  ampersand : ∀ before after, s.toList = before ++ '&' :: after →
    ∃ entity ∈ markupEntities, entity.toList <+: '&' :: after

/-- The characters of a text with the entities replaced by what they stand for, from the left. -/
def unescapeChars : List Char → List Char
  | [] => []
  | '&' :: 'a' :: 'm' :: 'p' :: ';' :: rest => '&' :: unescapeChars rest
  | '&' :: 'l' :: 't' :: ';' :: rest => '<' :: unescapeChars rest
  | '&' :: 'g' :: 't' :: ';' :: rest => '>' :: unescapeChars rest
  | c :: rest => c :: unescapeChars rest

/-- The text with the entities replaced by what they stand for, from the left. -/
def unescapeMarkup (s : String) : String :=
  String.ofList (unescapeChars s.toList)

example : unescapeMarkup "&amp;lt; &lt;b&gt;" = "&lt; <b>" := by decide +kernel

/-! ## One character -/

/-- A character is written as an entity, or as itself if it needs none. -/
theorem escapeMarkupChar_cases (c : Char) :
    (∃ entity ∈ markupEntities, escapeMarkupChar c = entity.toList)
      ∨ escapeMarkupChar c = [c] ∧ c ≠ '&' ∧ c ≠ '<' ∧ c ≠ '>' := by
  unfold escapeMarkupChar
  split
  · exact .inl ⟨"&amp;", by decide, rfl⟩
  split
  · exact .inl ⟨"&lt;", by decide, rfl⟩
  split
  · exact .inl ⟨"&gt;", by decide, rfl⟩
  · next hamp hlt hgt => exact .inr ⟨rfl, by simpa using hamp, by simpa using hlt, by simpa using hgt⟩

/-- Entities hold no angle brackets, and no ampersand but the first character. -/
theorem markupEntities_spec {entity : String} (h : entity ∈ markupEntities) :
    '<' ∉ entity.toList ∧ '>' ∉ entity.toList ∧ '&' ∉ entity.toList.tail := by
  revert entity
  decide

theorem bracket_not_mem_escapeMarkupChar (c : Char) :
    '<' ∉ escapeMarkupChar c ∧ '>' ∉ escapeMarkupChar c := by
  rcases escapeMarkupChar_cases c with ⟨entity, hentity, hc⟩ | ⟨hc, -, hlt, hgt⟩
  · obtain ⟨hopening, hclosing, -⟩ := markupEntities_spec hentity
    exact ⟨hc ▸ hopening, hc ▸ hclosing⟩
  · rw [hc]
    exact ⟨by simpa using hlt.symm, by simpa using hgt.symm⟩

/-- An ampersand in what is written for a character begins its entity. -/
theorem entity_of_escapeMarkupChar {c : Char} {before after : List Char}
    (h : escapeMarkupChar c = before ++ '&' :: after) :
    ∃ entity ∈ markupEntities, entity.toList = '&' :: after := by
  rcases escapeMarkupChar_cases c with ⟨entity, hentity, hc⟩ | ⟨hc, hamp, -, -⟩
  · refine ⟨entity, hentity, ?_⟩
    rw [hc] at h
    cases before with
    | nil => exact h
    | cons b before =>
        -- there would be a further ampersand in the entity
        obtain ⟨-, -, htail⟩ := markupEntities_spec hentity
        rw [h] at htail
        simp at htail
  · rw [hc] at h
    have hmem : '&' ∈ [c] := h ▸ List.mem_append_right before List.mem_cons_self
    exact absurd (List.mem_singleton.1 hmem).symm hamp

/-! ## Whole texts -/

theorem entity_of_flatMap {s before after : List Char}
    (h : s.flatMap escapeMarkupChar = before ++ '&' :: after) :
    ∃ entity ∈ markupEntities, entity.toList <+: '&' :: after := by
  induction s generalizing before with
  | nil => simp at h
  | cons c s ih =>
      rw [List.flatMap_cons] at h
      obtain ⟨more, -, hmore⟩ | ⟨more, hc, hmore⟩ := List.append_eq_append_iff.1 h
      · exact ih hmore
      · -- the ampersand is in what is written for the first character, or right behind it
        cases more with
        | nil =>
            have hrest : s.flatMap escapeMarkupChar = [] ++ '&' :: after := hmore.symm
            exact ih hrest
        | cons m more =>
            obtain ⟨rfl, rfl⟩ := List.cons.inj hmore
            obtain ⟨entity, hentity, heq⟩ := entity_of_escapeMarkupChar hc
            exact ⟨entity, hentity, heq ▸ List.prefix_append _ _⟩

/-- A text that is escaped holds no markup. -/
theorem escapeMarkup_isInert (s : String) : IsInert (escapeMarkup s) := by
  have hbrackets (c : Char) := bracket_not_mem_escapeMarkupChar c
  refine ⟨?_, ?_, fun before after h => ?_⟩
  · rw [escapeMarkup, String.toList_ofList, List.mem_flatMap]
    exact fun ⟨c, _, hc⟩ => (hbrackets c).1 hc
  · rw [escapeMarkup, String.toList_ofList, List.mem_flatMap]
    exact fun ⟨c, _, hc⟩ => (hbrackets c).2 hc
  · rw [escapeMarkup, String.toList_ofList] at h
    exact entity_of_flatMap h

theorem unescapeChars_cons {c : Char} (hc : c ≠ '&') (rest : List Char) :
    unescapeChars (c :: rest) = c :: unescapeChars rest := by
  rw [unescapeChars] <;> exact fun _ h => absurd h hc

theorem unescapeChars_escapeMarkupChar (c : Char) (rest : List Char) :
    unescapeChars (escapeMarkupChar c ++ rest) = c :: unescapeChars rest := by
  unfold escapeMarkupChar
  split
  · next hc =>
      rw [beq_iff_eq.1 hc]
      rfl
  split
  · next hc =>
      rw [beq_iff_eq.1 hc]
      rfl
  split
  · next hc =>
      rw [beq_iff_eq.1 hc]
      rfl
  · next hamp _ _ => exact unescapeChars_cons (by simpa using hamp) rest

/-- Nothing is lost when a text is escaped. -/
theorem unescapeMarkup_escapeMarkup (s : String) : unescapeMarkup (escapeMarkup s) = s := by
  have hchars (chars : List Char) : unescapeChars (chars.flatMap escapeMarkupChar) = chars := by
    induction chars with
    | nil => rfl
    | cons c chars ih => rw [List.flatMap_cons, unescapeChars_escapeMarkupChar, ih]
  rw [unescapeMarkup, escapeMarkup, String.toList_ofList, hchars, String.ofList_toList]

theorem escapeMarkup_inj {s t : String} : escapeMarkup s = escapeMarkup t ↔ s = t := by
  refine ⟨fun h => ?_, congrArg escapeMarkup⟩
  rw [← unescapeMarkup_escapeMarkup s, h, unescapeMarkup_escapeMarkup]

end AgentScript.Text
