import AgentScript.Bindings
import Mathlib.Data.List.Nodup

set_option autoImplicit false

/-! # Bindings of distinct names

Names that have not been bound yet are bound at the end (`foldl_entries`), and where all names are
distinct the bindings are just their entries (`get?_eq_some_iff`). Whatever the names, only what has
been put can be bound (`get?_foldl_eq_some`). -/

namespace AgentScript.Bindings

variable {α : Type} {name : String} {entries : List (String × α)}

theorem lookupIn_eq_none (h : name ∉ entries.map Prod.fst) : lookupIn name entries = none := by
  induction entries with
  | nil => rfl
  | cons e rest ih =>
      obtain ⟨hne, hrest⟩ := not_or.1 (mt List.mem_cons.2 h)
      rw [lookupIn, if_neg (Ne.symm hne), ih hrest]

theorem lookupIn_append (name : String) (entries more : List (String × α)) :
    lookupIn name (entries ++ more) = (lookupIn name entries).or (lookupIn name more) := by
  induction entries with
  | nil => rfl
  | cons e rest ih =>
      rw [List.cons_append, lookupIn, lookupIn]
      split
      · rfl
      · exact ih

theorem putIn_of_not_mem (h : name ∉ entries.map Prod.fst) (a : α) :
    putIn name a entries = entries ++ [(name, a)] := by
  induction entries with
  | nil => rfl
  | cons e rest ih =>
      obtain ⟨hne, hrest⟩ := not_or.1 (mt List.mem_cons.2 h)
      rw [putIn, if_neg (Ne.symm hne), ih hrest, List.cons_append]

theorem mem_of_lookupIn_eq_some {a : α} (h : lookupIn name entries = some a) :
    (name, a) ∈ entries := by
  induction entries with
  | nil => cases h
  | cons e rest ih =>
      obtain ⟨n, b⟩ := e
      rw [lookupIn] at h
      split at h
      · next hname =>
          cases h
          subst hname
          exact List.mem_cons_self
      · exact List.mem_cons_of_mem _ (ih h)

theorem lookupIn_eq_some_iff (h : (entries.map Prod.fst).Nodup) {a : α} :
    lookupIn name entries = some a ↔ (name, a) ∈ entries := by
  induction entries with
  | nil => simp [lookupIn]
  | cons e rest ih =>
      obtain ⟨n, b⟩ := e
      obtain ⟨hn, hrest⟩ := List.nodup_cons.1 h
      rw [lookupIn, List.mem_cons, Prod.mk.injEq]
      by_cases hname : n = name
      · subst hname
        have hnot : (n, a) ∉ rest := fun hmem => hn (List.mem_map.2 ⟨_, hmem, rfl⟩)
        rw [if_pos rfl, Option.some.injEq]
        constructor
        · rintro rfl
          exact .inl ⟨rfl, rfl⟩
        · rintro (⟨-, rfl⟩ | hmem)
          · rfl
          · exact absurd hmem hnot
      · rw [if_neg hname, ih hrest]
        exact ⟨.inr, fun hmem => hmem.resolve_left fun heq => hname heq.1.symm⟩

theorem get?_eq_some_iff {b : Bindings α} (h : b.names.Nodup) {a : α} :
    b.get? name = some a ↔ (name, a) ∈ b.entries :=
  lookupIn_eq_some_iff h

theorem contains_eq_false {b : Bindings α} (h : name ∉ b.names) : b.contains name = false := by
  rw [contains, get?, lookupIn_eq_none h]
  rfl

theorem put_entries {b : Bindings α} (h : name ∉ b.names) (a : α) :
    (b.put name a).entries = b.entries ++ [(name, a)] :=
  putIn_of_not_mem h a

/-- If `step` adds an entry for an unbound name at the end, so does it add all entries of a list
    whose names are unbound and distinct. -/
theorem foldl_entries {step : Bindings α → String × α → Bindings α}
    (hstep : ∀ b e, e.1 ∉ b.names → (step b e).entries = b.entries ++ [e]) {b : Bindings α}
    (h : ((b.entries ++ entries).map Prod.fst).Nodup) :
    (entries.foldl step b).entries = b.entries ++ entries := by
  induction entries generalizing b with
  | nil => exact (List.append_nil _).symm
  | cons e rest ih =>
      have hunbound : e.1 ∉ b.names := by
        rw [List.map_append] at h
        intro hmem
        exact List.disjoint_of_nodup_append h hmem List.mem_cons_self
      have hnext := hstep b e hunbound
      have hrest : (((step b e).entries ++ rest).map Prod.fst).Nodup := by
        rwa [hnext, List.append_assoc]
      rw [List.foldl_cons, ih hrest, hnext, List.append_assoc, List.singleton_append]

/-- A name that is bound after some entries have been put, or passed over, was bound before or is
    bound by one of them. -/
theorem get?_foldl_eq_some {step : Bindings α → String × α → Bindings α}
    (hstep : ∀ b e, step b e = b ∨ step b e = b.put e.1 e.2) {b : Bindings α} {a : α}
    (h : (entries.foldl step b).get? name = some a) :
    b.get? name = some a ∨ (name, a) ∈ entries := by
  induction entries generalizing b with
  | nil => exact .inl h
  | cons e rest ih =>
      rcases ih h with hget | hmem
      · rcases hstep b e with hsame | hput
        · exact .inl (hsame ▸ hget)
        · rw [hput] at hget
          by_cases hname : name = e.1
          · subst hname
            rw [get?_put_self] at hget
            cases hget
            exact .inr List.mem_cons_self
          · rw [get?_put_of_ne b hname] at hget
            exact .inl hget
      · exact .inr (List.mem_cons_of_mem e hmem)

theorem mem_of_get?_ofList {a : α} (h : (ofList entries).get? name = some a) :
    (name, a) ∈ entries := by
  rcases get?_foldl_eq_some (fun _ _ => .inr rfl) h with hempty | hmem
  · cases hempty
  · exact hmem

theorem ofList_entries (h : (entries.map Prod.fst).Nodup) : (ofList entries).entries = entries :=
  foldl_entries (fun _ e he => put_entries he e.2) h

end AgentScript.Bindings
