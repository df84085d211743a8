import AgentScript.Text.Lowercase
import Mathlib.Data.List.Infix

set_option autoImplicit false

/-! # The lower case of a part of a text

Only the capital sigma is lower-cased with a look at what stands around it. So the lower case of a
text is that of its parts, one after the other, each lower-cased where it stands
(`lowerFrom_append`); and a part that is lower-cased by itself is found in it, provided that its
sigmas end a word where it stands just in case they do when it stands alone (`lower_infix`). -/

namespace AgentScript.Text

/-- Whether a sigma ends a word, between the characters before it, nearest first, and those after
    it. -/
def endsWord (before after : List Char) : Bool :=
  facesCased before && !facesCased after

/-- The lower case of one character between others. -/
def lowerAt (before : List Char) (c : Char) (after : List Char) : List Char :=
  if c == 'Σ' then [if endsWord before after then 'ς' else 'σ']
  else if c == 'İ' then ['i', '\u0307']
  else [lowerChar c]

/-- The lower case of a part of a text between the characters before it, nearest first, and those
    after it. -/
def lowerWithin (before after : List Char) : List Char → List Char
  | [] => []
  | c :: rest => lowerAt before c (rest ++ after) ++ lowerWithin (c :: before) after rest

theorem lowerFrom_cons (before : List Char) (c : Char) (rest : List Char) :
    lowerFrom before (c :: rest) = lowerAt before c rest ++ lowerFrom (c :: before) rest :=
  rfl

theorem lowerFrom_append (before s t : List Char) :
    lowerFrom before (s ++ t) = lowerWithin before t s ++ lowerFrom (s.reverse ++ before) t := by
  induction s generalizing before with
  | nil => rfl
  | cons c s ih =>
      rw [List.cons_append, lowerFrom_cons, ih, lowerWithin, List.append_assoc, List.reverse_cons,
        List.append_assoc, List.singleton_append]

theorem lowerWithin_nil (before s : List Char) : lowerWithin before [] s = lowerFrom before s := by
  have happend := lowerFrom_append before s []
  rw [List.append_nil, lowerFrom, List.append_nil] at happend
  exact happend.symm

/-- Characters around a part matter for its sigmas only. -/
theorem lowerWithin_congr {before after before' after' s : List Char}
    (h : ∀ front back, s = front ++ 'Σ' :: back →
      endsWord (front.reverse ++ before) (back ++ after)
        = endsWord (front.reverse ++ before') (back ++ after')) :
    lowerWithin before after s = lowerWithin before' after' s := by
  induction s generalizing before before' with
  | nil => rfl
  | cons c s ih =>
      have hfirst : lowerAt before c (s ++ after) = lowerAt before' c (s ++ after') := by
        by_cases hc : c = 'Σ'
        · subst hc
          have hends : endsWord before (s ++ after) = endsWord before' (s ++ after') := h [] s rfl
          rw [lowerAt, lowerAt, hends]
        · have hne : ¬ (c == 'Σ') = true := by simpa using hc
          rw [lowerAt, lowerAt, if_neg hne, if_neg hne]
      rw [lowerWithin, lowerWithin, hfirst, ih]
      rintro front back rfl
      have hlater := h (c :: front) back rfl
      rwa [List.reverse_cons, List.append_assoc, List.append_assoc] at hlater

/-- The sigmas of a text end a word in it just in case they do where it stands as a part between
    others. -/
def SigmasAgree (before s after : String) : Prop :=
  ∀ front back, s.toList = front ++ 'Σ' :: back →
    endsWord (front.reverse ++ before.toList.reverse) (back ++ after.toList)
      = endsWord front.reverse back

theorem sigmasAgree_of_not_mem {s : String} (h : 'Σ' ∉ s.toList) (before after : String) :
    SigmasAgree before s after := by
  intro front back hs
  exact absurd (hs ▸ List.mem_append_right front List.mem_cons_self) h

/-- A part is found again in lower case if its sigmas agree. -/
theorem lower_infix {before s after : String} (h : SigmasAgree before s after) :
    (lower s).toList <:+: (lower (before ++ s ++ after)).toList := by
  have hpart : lowerWithin before.toList.reverse after.toList s.toList = lowerFrom [] s.toList := by
    rw [← lowerWithin_nil]
    refine lowerWithin_congr fun front back hs => ?_
    rw [List.append_nil, List.append_nil]
    exact h front back hs
  rw [lower, lower, String.toList_ofList, String.toList_ofList, String.toList_append,
    String.toList_append, List.append_assoc, lowerFrom_append, lowerFrom_append, List.append_nil,
    hpart]
  exact ⟨_, _, List.append_assoc _ _ _⟩

end AgentScript.Text
