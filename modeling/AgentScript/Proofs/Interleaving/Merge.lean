import Mathlib.Data.List.Basic

set_option autoImplicit false

/-! # Merging lists

A list is a merge of several others if it consists of all their elements and has those of each in
their order (`Interleaves`). Elements of one list that are taken together stay a part of the merge
(`Interleaves.append`), so a merge remains one when its elements are replaced by what they
contribute (`Interleaves.flatMap`). -/

namespace AgentScript

variable {α β : Type}

/-- The second argument merges the lists in the first: it is built by taking the head of one of
    them, over and over, until nothing is left of any. -/
inductive Interleaves : List (List α) → List α → Prop where
  | nil {parts : List (List α)} (hparts : ∀ part ∈ parts, part = []) : Interleaves parts []
  | cons {parts : List (List α)} (i : Nat) {a : α} {rest whole : List α}
      (hi : parts[i]? = some (a :: rest)) (hrest : Interleaves (parts.set i rest) whole) :
      Interleaves parts (a :: whole)

namespace Interleaves

/-- Several elements may be taken from one list at once. -/
theorem append {parts : List (List α)} {i : Nat} {taken rest whole : List α}
    (hrest : Interleaves (parts.set i rest) whole) (hi : parts[i]? = some (taken ++ rest)) :
    Interleaves parts (taken ++ whole) := by
  induction taken generalizing parts with
  | nil =>
      obtain ⟨hlt, rfl⟩ := List.getElem?_eq_some_iff.1 hi
      rwa [List.nil_append, ← List.set_getElem_self hlt]
  | cons a taken ih =>
      have hlt : i < parts.length := (List.getElem?_eq_some_iff.1 hi).1
      refine .cons i hi (ih ?_ (List.getElem?_set_self hlt))
      rwa [List.set_set]

theorem flatMap {parts : List (List α)} {whole : List α} (h : Interleaves parts whole)
    (f : α → List β) :
    Interleaves (parts.map fun part => part.flatMap f) (whole.flatMap f) := by
  induction h with
  | nil hparts =>
      refine .nil fun part hpart => ?_
      obtain ⟨part, hmem, rfl⟩ := List.mem_map.1 hpart
      rw [hparts part hmem, List.flatMap_nil]
  | @cons parts i a rest whole hi hrest ih =>
      rw [List.flatMap_cons]
      rw [List.map_set] at ih
      exact ih.append (by rw [List.getElem?_map, hi, Option.map_some, List.flatMap_cons])

end Interleaves

/-- A list that was `before` has become `after`, by gaining a merge of what each list in `alone` has
    beyond `before`. -/
def GainsInterleaving (before after : List α) (alone : List (List α)) : Prop :=
  ∃ parts whole, alone = parts.map (before ++ ·) ∧ after = before ++ whole
    ∧ Interleaves parts whole

end AgentScript
