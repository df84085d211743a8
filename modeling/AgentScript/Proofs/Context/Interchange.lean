import AgentScript.Context.Template
import AgentScript.Proofs.Value.JsonText

set_option autoImplicit false

/-! # Values and their texts in templates

A list or a dictionary may be bound to a name as such or as its structured text: templates cannot
tell the two apart (`resolve_put_toText`). A token that names nothing but the value is replaced by
the same text, and a path into the text is followed into the value that the text is decoded to. -/

namespace AgentScript

namespace Context

variable {v : Value} {text : String} (htext : v.toText = .ok text)
  (hdecode : (Value.str text).decodeJson = .ok v) (hstructured : v.isStructured)

theorem decodeJson_of_isStructured {v : Value} (h : v.isStructured) : v.decodeJson = .ok v := by
  cases v with
  | list | dict => rfl
  | _ => cases h

include hdecode hstructured

/-- A path leads to the same from a value and from its text, unless it leads to them. -/
theorem lookup_put_text (c : Context) (name path : String) :
    (c.put name v).lookup path = (c.put name (.str text)).lookup path
      ∨ (c.put name v).lookup path = .ok (some v)
        ∧ (c.put name (.str text)).lookup path = .ok (some (.str text)) := by
  unfold lookup
  cases steps path with
  | nil => exact .inl rfl
  | cons head rest =>
      by_cases hname : head = name
      · subst hname
        have hget (u : Value) : (c.put head u).get? head = some u := Bindings.get?_put_self _ _ _
        simp only [hget]
        cases rest with
        | nil => exact .inr ⟨rfl, rfl⟩
        | cons key rest =>
            refine .inl ?_
            rw [decodeJson_of_isStructured hstructured, hdecode]
            rfl
      · have hget (u : Value) : (c.put name u).get? head = c.get? head :=
          Bindings.get?_put_of_ne _ hname u
        refine .inl ?_
        simp only [hget]

include htext

/-- A piece of a template stands for the same with a value and with its text. -/
theorem resolve_piece_put_text (c : Context) (name : String) (p : Piece) :
    p.resolve (c.put name v) = p.resolve (c.put name (.str text)) := by
  cases p with
  | char x => rfl
  | token path =>
      rw [Piece.resolve, Piece.resolve]
      obtain hsame | ⟨hvalue, hstr⟩ :=
        lookup_put_text hdecode hstructured c name (String.ofList path)
      · rw [hsame]
      · rw [hvalue, hstr]
        change (do return (← v.toText).toList) = (do return (← (Value.str text).toText).toList)
        rw [htext, Value.toText]

theorem resolvePieces_put_text (c : Context) (name : String) (pieces : List Piece) :
    (c.put name v).resolvePieces pieces = (c.put name (.str text)).resolvePieces pieces := by
  induction pieces with
  | nil => rfl
  | cons p rest ih =>
      rw [resolvePieces, resolvePieces, ih, resolve_piece_put_text htext hdecode hstructured]

omit htext hdecode hstructured

/-- A list or a dictionary that is plain has a text, which decodes to it, and templates resolve
    alike whether a name is bound to the value or to its text. -/
theorem resolve_put_toText (hstructured : v.isStructured) (hplain : v.isPlain)
    (hdepth : v.nesting ≤ 300) :
    ∃ text, v.toText = .ok text ∧ (Value.str text).decodeJson = .ok v
      ∧ ∀ (c : Context) (name template : String),
        (c.put name v).resolve template = (c.put name (.str text)).resolve template := by
  have hlimit : v.nesting ≤ Value.nestingLimit := Nat.le_trans hdepth (by decide)
  obtain ⟨text, htext, hdecode⟩ := Value.decodeJson_toText hstructured hplain hlimit
  refine ⟨text, htext, hdecode, fun c name template => ?_⟩
  rw [resolve, resolve, resolvePieces_put_text htext hdecode hstructured]

/-- A dictionary with a list in it, a null, a negative number and a text that needs escapes. -/
def orders : Value :=
  .dict [(.str "items", .list [.int (-12), .dict [(.str "note", .null)]]), (.str "by", .str "\"\n")]

theorem resolve_put_toText_orders :
    orders.isStructured ∧ orders.isPlain ∧ orders.nesting ≤ 300
      ∧ ∃ text, orders.toText = .ok text ∧ (Value.str text).decodeJson = .ok orders
        ∧ ∀ (c : Context) (name template : String),
          (c.put name orders).resolve template = (c.put name (.str text)).resolve template := by
  have hplain : orders.isPlain := by decide +kernel
  have hdepth : orders.nesting ≤ 300 := by decide +kernel
  exact ⟨rfl, hplain, hdepth, resolve_put_toText rfl hplain hdepth⟩

end Context

end AgentScript
