import AgentScript.Proofs.Value.Writable
import AgentScript.Value.Path

set_option autoImplicit false

/-! # Where paths lead

Inside a value, a path leads to another value, leads nowhere, or is obstructed. Following a path
finds the value that it leads to and fails where it is obstructed (`follow_iff`). The one
obstruction is a step into a list that has digits only but writes no position. -/

namespace AgentScript

/-! ## Searches -/

/-- What is known of a search that finds something, or is obstructed, or finds nothing. -/
theorem search_iff {α : Type} {found : Except Failure (Option α)} {Leads : α → Prop}
    {Obstructed : Prop} (hleads : ∀ a, Leads a → found = .ok (some a))
    (hobstructed : Obstructed → ∃ f, found = .error f)
    (h : (∃ a, Leads a) ∨ Obstructed ∨ found = .ok none) :
    (∀ a, found = .ok (some a) ↔ Leads a) ∧ ((∃ f, found = .error f) ↔ Obstructed) := by
  -- the three outcomes exclude each other, so each implication has a converse
  refine ⟨fun a => ⟨fun ha => ?_, hleads a⟩, ?_, hobstructed⟩
  · rcases h with ⟨b, hb⟩ | h | h
    · rw [hleads b hb] at ha
      cases ha
      exact hb
    · obtain ⟨f, hf⟩ := hobstructed h
      rw [hf] at ha
      cases ha
    · rw [h] at ha
      cases ha
  · rintro ⟨f, hf⟩
    rcases h with ⟨b, hb⟩ | h | h
    · rw [hleads b hb] at hf
      cases hf
    · exact h
    · rw [h] at hf
      cases hf

/-! ## Positions -/

/-- A step that is taken for a position in a list: it has digits of any kind and nothing else. -/
def LooksLikePosition (key : String) : Prop :=
  key ≠ "" ∧ ∀ x ∈ key.toList, Text.isDigit x

/-- A step that writes a position: it has decimal digits and nothing else, and not too many. -/
def IsPosition (key : String) (n : Nat) : Prop :=
  key ≠ "" ∧ key.toList.length ≤ digitLimit
    ∧ ∃ digits, key.toList.map Text.decimalValue? = digits.map some ∧ n = Text.natOfDigits digits

theorem IsPosition.looksLikePosition {key : String} {n : Nat} (h : IsPosition key n) :
    LooksLikePosition key := by
  obtain ⟨hne, -, digits, hdigits, -⟩ := h
  refine ⟨hne, fun x hx => ?_⟩
  have hvalue : Text.decimalValue? x ∈ digits.map some := hdigits ▸ List.mem_map_of_mem hx
  obtain ⟨d, -, hd⟩ := List.mem_map.1 hvalue
  rw [Text.isDigit, ← hd]
  rfl

/-- If as many digits are in front as there are characters, all characters are digits. -/
theorem eq_map_some_of_length {values : List (Option Nat)}
    (h : ((values.takeWhile Option.isSome).filterMap id).length = values.length) :
    values = ((values.takeWhile Option.isSome).filterMap id).map some := by
  induction values with
  | nil => rfl
  | cons value rest ih =>
      cases value with
      | none => cases h
      | some d => exact congrArg (some d :: ·) (ih (Nat.succ.inj h))

theorem takeWhile_map_some (digits : List Nat) :
    ((digits.map some).takeWhile Option.isSome).filterMap id = digits := by
  induction digits with
  | nil => rfl
  | cons d digits ih => exact congrArg (d :: ·) ih

/-- A step can be read as a number just in case it writes a position. -/
theorem readNatural_eq_ok_iff {key : String} (hne : key ≠ "") {n : Nat} :
    Decimal.readNatural key = .ok n ↔ IsPosition key n := by
  unfold Decimal.readNatural
  dsimp only
  constructor
  · intro h
    split at h
    · cases h
    · next hlimit =>
        split at h
        · next hlength =>
            cases h
            -- the digits in front are counted, and they are all there is
            refine ⟨hne, ?_, _, eq_map_some_of_length hlength, rfl⟩
            rw [← List.length_map Text.decimalValue?, ← hlength]
            exact Nat.le_of_not_lt hlimit
        · cases h
  · rintro ⟨-, hlimit, digits, hdigits, rfl⟩
    have hlength : digits.length = key.toList.length := by
      rw [← List.length_map Text.decimalValue?, hdigits, List.length_map]
    rw [hdigits, takeWhile_map_some, if_neg (by omega), if_pos (List.length_map _).symm]

theorem looksLikePosition_iff {key : String} :
    (!key.toList.isEmpty && key.toList.all Text.isDigit) = true ↔ LooksLikePosition key := by
  simp [LooksLikePosition]

namespace Value

/-! ## One step -/

/-- One step leads from a value to a value inside of it. -/
inductive StepsTo : Value → String → Value → Prop
  | key {entries : List (Value × Value)} {key : String} {v : Value}
      (h : valueAt? key entries = some v) : StepsTo (.dict entries) key v
  | position {items : List Value} {key : String} {n : Nat} {v : Value} (hn : IsPosition key n)
      (hv : items[n]? = some v) : StepsTo (.list items) key v

/-- A step into a list that looks like a position and writes none. -/
structure ObstructsStep (v : Value) (key : String) : Prop where
  isList : ∃ items, v = .list items
  looksLikePosition : LooksLikePosition key
  not_isPosition : ∀ n, ¬ IsPosition key n

theorem descend_list_of_isPosition {key : String} {n : Nat} (h : IsPosition key n)
    (items : List Value) : (Value.list items).descend key = .ok items[n]? := by
  rw [descend, if_pos (looksLikePosition_iff.2 h.looksLikePosition),
    (readNatural_eq_ok_iff h.1).2 h]
  rfl

theorem descend_list_of_not_looksLikePosition {key : String} (h : ¬ LooksLikePosition key)
    (items : List Value) : (Value.list items).descend key = .ok none := by
  rw [descend, if_neg (mt looksLikePosition_iff.1 h)]

theorem ObstructsStep.descend {v : Value} {key : String} (h : v.ObstructsStep key) :
    ∃ f, v.descend key = .error f := by
  obtain ⟨⟨items, rfl⟩, hlooks, hnone⟩ := h
  rw [Value.descend, if_pos (looksLikePosition_iff.2 hlooks)]
  cases hread : Decimal.readNatural key with
  | error f => exact ⟨f, rfl⟩
  | ok n => exact absurd ((readNatural_eq_ok_iff hlooks.1).1 hread) (hnone n)

theorem StepsTo.descend {v inner : Value} {key : String} (h : StepsTo v key inner) :
    v.descend key = .ok (some inner) := by
  cases h with
  | key h => exact congrArg Except.ok h
  | position hn hv => rw [descend_list_of_isPosition hn, hv]

/-- A step leads somewhere, or it is obstructed, or it leads nowhere. -/
theorem stepsTo_or_obstructsStep (v : Value) (key : String) :
    (∃ inner, StepsTo v key inner) ∨ v.ObstructsStep key ∨ v.descend key = .ok none := by
  cases v with
  | dict entries =>
      cases h : valueAt? key entries with
      | some inner => exact .inl ⟨inner, .key h⟩
      | none => exact .inr (.inr (congrArg Except.ok h))
  | list items =>
      by_cases hlooks : LooksLikePosition key
      · by_cases hn : ∃ n, IsPosition key n
        · obtain ⟨n, hn⟩ := hn
          cases hv : items[n]? with
          | some inner => exact .inl ⟨inner, .position hn hv⟩
          | none => exact .inr (.inr (by rw [descend_list_of_isPosition hn, hv]))
        · exact .inr (.inl ⟨⟨items, rfl⟩, hlooks, not_exists.1 hn⟩)
      · exact .inr (.inr (descend_list_of_not_looksLikePosition hlooks items))
  | _ => exact .inr (.inr rfl)

/-! ## Whole paths -/

/-- A path leads from a value to a value inside of it. Null leads to itself, whatever steps are
    left. -/
inductive LeadsTo : Value → List String → Value → Prop
  | here (v : Value) : LeadsTo v [] v
  | null (key : String) (rest : List String) : LeadsTo .null (key :: rest) .null
  | step {v inner w : Value} {key : String} {rest : List String} (h : StepsTo v key inner)
      (hrest : LeadsTo inner rest w) : LeadsTo v (key :: rest) w

/-- A path meets a step that is obstructed. -/
inductive Obstructs : Value → List String → Prop
  | here {v : Value} {key : String} (h : v.ObstructsStep key) (rest : List String) :
      Obstructs v (key :: rest)
  | step {v inner : Value} {key : String} {rest : List String} (h : StepsTo v key inner)
      (hrest : Obstructs inner rest) : Obstructs v (key :: rest)

theorem follow_cons {v : Value} (hv : v ≠ .null) (key : String) (rest : List String) :
    v.follow (key :: rest) = (do
      match ← v.descend key with
      | some inner => inner.follow rest
      | none => .ok none) := by
  cases v <;> first | rfl | exact absurd rfl hv

theorem StepsTo.follow {v inner : Value} {key : String} (h : StepsTo v key inner)
    (rest : List String) : v.follow (key :: rest) = inner.follow rest := by
  have hv : v ≠ .null := by
    rintro rfl
    cases h
  rw [follow_cons hv, h.descend]
  rfl

theorem LeadsTo.follow {v w : Value} {path : List String} (h : LeadsTo v path w) :
    v.follow path = .ok (some w) := by
  induction h with
  | here => rfl
  | null key rest => rfl
  | step h _ ih => rw [h.follow, ih]

theorem Obstructs.follow {v : Value} {path : List String} (h : v.Obstructs path) :
    ∃ f, v.follow path = .error f := by
  induction h with
  | here h rest =>
      obtain ⟨f, hf⟩ := h.descend
      obtain ⟨items, rfl⟩ := h.isList
      refine ⟨f, ?_⟩
      rw [follow_cons (by simp), hf]
      rfl
  | step h _ ih => rwa [h.follow]

/-- A path leads somewhere, or it is obstructed, or it leads nowhere. -/
theorem leadsTo_or_obstructs (v : Value) (path : List String) :
    (∃ w, LeadsTo v path w) ∨ v.Obstructs path ∨ v.follow path = .ok none := by
  induction path generalizing v with
  | nil => exact .inl ⟨v, .here v⟩
  | cons key rest ih =>
      -- null has no steps of its own, so it comes before the step
      by_cases hv : v = .null
      · subst hv
        exact .inl ⟨.null, .null key rest⟩
      rcases stepsTo_or_obstructsStep v key with ⟨inner, hinner⟩ | hobstructed | hnone
      · rcases ih inner with ⟨w, hw⟩ | hobstructed | hnone
        · exact .inl ⟨w, .step hinner hw⟩
        · exact .inr (.inl (.step hinner hobstructed))
        · exact .inr (.inr (by rw [hinner.follow, hnone]))
      · exact .inr (.inl (.here hobstructed rest))
      · refine .inr (.inr ?_)
        rw [follow_cons hv, hnone]
        rfl

/-- A path whose steps look like positions only if they are is never obstructed. -/
theorem Obstructs.exists_step {v : Value} {path : List String} (h : v.Obstructs path) :
    ∃ key ∈ path, LooksLikePosition key ∧ ∀ n, ¬ IsPosition key n := by
  induction h with
  | here h rest => exact ⟨_, List.mem_cons_self, h.looksLikePosition, h.not_isPosition⟩
  | step _ _ ih =>
      obtain ⟨key, hmem, hkey⟩ := ih
      exact ⟨key, List.mem_cons_of_mem _ hmem, hkey⟩

/-- Following a path finds the value that it leads to, and fails just in case it is obstructed. -/
theorem follow_iff (v : Value) (path : List String) :
    (∀ w, v.follow path = .ok (some w) ↔ LeadsTo v path w)
      ∧ ((∃ f, v.follow path = .error f) ↔ v.Obstructs path) :=
  search_iff (fun _ => LeadsTo.follow) Obstructs.follow (leadsTo_or_obstructs v path)

/-! ## What is found has a text -/

theorem mem_of_valueAt?_eq_some {key : String} {v : Value} {entries : List (Value × Value)}
    (h : valueAt? key entries = some v) : (.str key, v) ∈ entries := by
  fun_induction valueAt? key entries with
  | case1 => cases h
  | case2 value rest =>
      cases h
      exact List.mem_cons_self
  | case3 k value rest hne ih => exact List.mem_cons_of_mem _ (ih h)
  | case4 e rest hne ih => exact List.mem_cons_of_mem _ (ih h)

theorem StepsTo.isWritable {v inner : Value} {key : String} (h : StepsTo v key inner)
    (hv : v.IsWritable) : inner.IsWritable := by
  cases h with
  | key h =>
      rw [IsWritable, isMadeOf, entriesMadeOf_iff] at hv
      exact (hv _ (mem_of_valueAt?_eq_some h)).2
  | position _ h =>
      rw [IsWritable, isMadeOf, areMadeOf_iff] at hv
      exact hv _ (List.mem_of_getElem? h)

theorem LeadsTo.isWritable {v w : Value} {path : List String} (h : LeadsTo v path w)
    (hv : v.IsWritable) : w.IsWritable := by
  induction h with
  | here => exact hv
  | null key rest => exact hv
  | step h _ ih => exact ih (h.isWritable hv)

end Value

end AgentScript
