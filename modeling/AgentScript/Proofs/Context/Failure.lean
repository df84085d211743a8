import AgentScript.Context.Template

set_option autoImplicit false

/-! # How reading values can fail

Writing a value as text, following a path and resolving a template fail only for ordinary reasons:
too many digits, a bad numeral, too deep a nesting. No interrupt comes out of them. -/

namespace AgentScript

variable {α β : Type}

/-- A result that, if it is a failure, is one of those in `fails`. -/
def FailsIn (fails : Failure → Prop) : Except Failure α → Prop
  | .ok _ => True
  | .error f => fails f

/-- The failures that a run reports. -/
def IsOrdinary (f : Failure) : Prop :=
  f.isOrdinary

namespace FailsIn

variable {fails : Failure → Prop}

theorem ok (a : α) : FailsIn fails (.ok a) :=
  trivial

theorem all (r : Except Failure α) : FailsIn (fun _ => True) r := by
  cases r <;> trivial

theorem mono {more : Failure → Prop} (h : ∀ f, fails f → more f) {r : Except Failure α}
    (hr : FailsIn fails r) : FailsIn more r := by
  cases r with
  | ok a => trivial
  | error f => exact h f hr

theorem bind {r : Except Failure α} {f : α → Except Failure β} (hr : FailsIn fails r)
    (hf : ∀ a, FailsIn fails (f a)) : FailsIn fails (r >>= f) := by
  cases r with
  | ok a => exact hf a
  | error e => exact hr

theorem map {r : Except Failure α} (f : α → β) (hr : FailsIn fails r) :
    FailsIn fails (r.map f) := by
  cases r <;> exact hr

end FailsIn

/-! ## Values -/

namespace Value

mutual

theorem literalChars_failsIn : (v : Value) → FailsIn IsOrdinary (literalChars v)
  | .null | .bool _ | .float _ | .str _ | .bytes _ => .ok _
  | .int n => by
      rw [literalChars]
      cases Decimal.writeInteger? n with
      | none => exact rfl
      | some text => exact .ok text
  | .list items => .bind (literalItems_failsIn items) fun _ => .ok _
  | .tuple items => .bind (literalItems_failsIn items) fun _ => .ok _
  | .dict entries => .bind (literalEntries_failsIn entries) fun _ => .ok _

theorem literalItems_failsIn : (items : List Value) → FailsIn IsOrdinary (literalItems items)
  | [] => .ok _
  | item :: rest =>
    .bind (literalChars_failsIn item) fun _ => .bind (literalItems_failsIn rest) fun _ => .ok _

theorem literalEntries_failsIn :
    (entries : List (Value × Value)) → FailsIn IsOrdinary (literalEntries entries)
  | [] => .ok _
  | (key, value) :: rest =>
    .bind (literalChars_failsIn key) fun _ => .bind (literalChars_failsIn value) fun _ =>
      .bind (literalEntries_failsIn rest) fun _ => .ok _

end

theorem literal_failsIn (v : Value) : FailsIn IsOrdinary v.literal :=
  (literalChars_failsIn v).map _

theorem toText_failsIn (v : Value) : FailsIn IsOrdinary v.toText := by
  cases v with
  | list items =>
      rw [toText]
      split
      · exact .ok _
      · exact literal_failsIn _
  | dict entries =>
      rw [toText]
      split
      · exact .ok _
      · exact literal_failsIn _
  | null | bool | str => exact .ok _
  | _ => exact literal_failsIn _

theorem decodeJson_failsIn (v : Value) : FailsIn IsOrdinary v.decodeJson := by
  unfold decodeJson
  split
  · split
    · split
      · exact .ok _
      · exact .ok _
      · exact rfl
    · exact .ok _
  · exact .ok _

theorem readNatural_failsIn (text : String) : FailsIn IsOrdinary (Decimal.readNatural text) := by
  unfold Decimal.readNatural
  dsimp only
  split
  · exact rfl
  · split
    · exact .ok _
    · exact rfl

theorem descend_failsIn (v : Value) (key : String) : FailsIn IsOrdinary (v.descend key) := by
  unfold descend
  split
  · exact .ok _
  · split
    · exact (readNatural_failsIn key).map _
    · exact .ok _
  · exact .ok _

theorem follow_failsIn (v : Value) (steps : List String) : FailsIn IsOrdinary (v.follow steps) := by
  induction steps generalizing v with
  | nil => exact .ok _
  | cons key rest ih =>
      unfold follow
      split
      · exact .ok _
      · refine .bind (descend_failsIn _ key) fun inner => ?_
        cases inner with
        | none => exact .ok _
        | some inner => exact ih inner

end Value

/-! ## Contexts -/

namespace Context

theorem lookup_failsIn (c : Context) (path : String) : FailsIn IsOrdinary (c.lookup path) := by
  unfold lookup
  split
  · exact .ok _
  · split
    · exact .ok _
    · split
      · exact .ok _
      · exact .bind (Value.decodeJson_failsIn _) fun v => Value.follow_failsIn v _

theorem resolvePieces_failsIn (c : Context) (pieces : List Piece) :
    FailsIn IsOrdinary (resolvePieces c pieces) := by
  induction pieces with
  | nil => exact .ok _
  | cons p rest ih =>
      refine .bind ?_ fun _ => .bind ih fun _ => .ok _
      cases p with
      | char x => exact .ok _
      | token path =>
          refine .bind (lookup_failsIn c _) fun found => ?_
          cases found with
          | none => exact .ok _
          | some v => exact .bind (Value.toText_failsIn v) fun _ => .ok _

theorem resolve_failsIn (c : Context) (text : String) : FailsIn IsOrdinary (c.resolve text) :=
  .bind (resolvePieces_failsIn c _) fun _ => .ok _

theorem answer_failsIn (c : Context) : FailsIn IsOrdinary c.answer := by
  unfold answer
  split
  · exact .ok _
  · exact .ok _
  · exact Value.toText_failsIn _

end Context

end AgentScript
