set_option autoImplicit false

/-! # Bindings

A finite map from names to values that remembers the order in which the names were first bound.
Binding a name again replaces its value in place. -/

namespace AgentScript

/-- Named values in the order of first binding. -/
structure Bindings (α : Type) where
  entries : List (String × α) := []

namespace Bindings

variable {α : Type}

/-- No name is bound. -/
def empty : Bindings α := ⟨[]⟩

/-- The value of `name` in a list of entries. -/
def lookupIn (name : String) : List (String × α) → Option α
  | [] => none
  | (n, a) :: rest => if n = name then some a else lookupIn name rest

/-- The entries with `name` bound to `a`. -/
def putIn (name : String) (a : α) : List (String × α) → List (String × α)
  | [] => [(name, a)]
  | (n, old) :: rest => if n = name then (n, a) :: rest else (n, old) :: putIn name a rest

/-- The value bound to `name`. -/
def get? (b : Bindings α) (name : String) : Option α :=
  lookupIn name b.entries

/-- Bind `name` to `a`. -/
def put (b : Bindings α) (name : String) (a : α) : Bindings α :=
  ⟨putIn name a b.entries⟩

/-- Whether `name` is bound. -/
def contains (b : Bindings α) (name : String) : Bool :=
  (b.get? name).isSome

/-- The bound names in the order of first binding. -/
def names (b : Bindings α) : List String :=
  b.entries.map Prod.fst

/-- Bind every name of a list of entries in turn. -/
def putAll (b : Bindings α) (entries : List (String × α)) : Bindings α :=
  entries.foldl (fun b e => b.put e.1 e.2) b

/-- The bindings that a list of entries makes; of two entries for a name the later one holds. -/
def ofList (entries : List (String × α)) : Bindings α :=
  empty.putAll entries

/-! ## Looking up what was bound -/

theorem lookupIn_putIn_self (name : String) (a : α) (entries : List (String × α)) :
    lookupIn name (putIn name a entries) = some a := by
  induction entries with
  | nil => simp [putIn, lookupIn]
  | cons e rest ih =>
    obtain ⟨n, old⟩ := e
    by_cases h : n = name <;> simp [putIn, lookupIn, h, ih]

theorem lookupIn_putIn_of_ne {name other : String} (h : other ≠ name) (a : α)
    (entries : List (String × α)) :
    lookupIn other (putIn name a entries) = lookupIn other entries := by
  induction entries with
  | nil => simp [putIn, lookupIn, h.symm]
  | cons e rest ih =>
    obtain ⟨n, old⟩ := e
    by_cases hn : n = name
    · subst hn
      simp [putIn, lookupIn, h.symm]
    · simp [putIn, lookupIn, hn, ih]

@[simp]
theorem get?_put_self (b : Bindings α) (name : String) (a : α) :
    (b.put name a).get? name = some a :=
  lookupIn_putIn_self name a b.entries

theorem get?_put_of_ne (b : Bindings α) {name other : String} (h : other ≠ name) (a : α) :
    (b.put name a).get? other = b.get? other :=
  lookupIn_putIn_of_ne h a b.entries

end Bindings

end AgentScript
