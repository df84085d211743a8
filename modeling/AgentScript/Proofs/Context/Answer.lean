import AgentScript.Context.Basic

set_option autoImplicit false

/-! # Answers that count

A value that counts as something is never written as the empty text, so an answer that is posted has
a text (`answer_ne_empty`). The converse fails for the values that are hollow: they count as nothing
but are written as some text (`answer_of_not_isTruthy`). -/

namespace AgentScript

theorem ofList_ne_empty {s : List Char} (h : s ≠ []) : String.ofList s ≠ "" := by
  intro hs
  exact h (by simpa using congrArg String.toList hs)

/-! ## Numbers -/

namespace Decimal

theorem positional_ne_nil (digits : List Char) (places : Int) : positional digits places ≠ [] := by
  unfold positional
  split <;> simp

theorem scientific_ne_nil (layout : Layout) (digits : List Char) (places : Int) :
    scientific layout digits places ≠ [] := by
  simp [scientific]

theorem write_ne_empty (x : Float) : plain.write x ≠ "" := by
  have signed (negative : Bool) {body : List Char} (h : body ≠ []) :
      String.ofList (if negative then '-' :: body else body) ≠ "" := by
    refine ofList_ne_empty ?_
    split
    · simp
    · exact h
  have laidOut (digits : List Char) (places : Int) :
      (if plain.positionalAbove < places && places ≤ plain.positionalUpTo then
        positional digits places
      else scientific plain digits places) ≠ [] := by
    split
    · exact positional_ne_nil digits places
    · exact scientific_ne_nil plain digits places
  unfold Layout.write
  cases shape x with
  | nan => decide
  | infinite negative => exact signed negative (by decide)
  | zero negative => exact signed negative (by simp)
  | finite negative mantissa exponent narrow => exact signed negative (laidOut _ _)

theorem writeInteger?_ne_nil {n : Int} {digits : List Char} (h : writeInteger? n = some digits) :
    digits ≠ [] := by
  unfold writeInteger? at h
  dsimp only at h
  split at h
  · obtain rfl := Option.some.inj h
    split
    · simp
    · exact Nat.toDigits_ne_nil
  · simp at h

end Decimal

/-! ## Values -/

namespace Value

/-- A literal is never empty. -/
theorem literalChars_ne_nil {v : Value} {chars : List Char} (h : literalChars v = .ok chars) :
    chars ≠ [] := by
  cases v with
  | null => rw [← Except.ok.inj h]; decide
  | bool b => rw [← Except.ok.inj h]; cases b <;> decide
  | int n =>
      rw [literalChars] at h
      cases hn : Decimal.writeInteger? n with
      | none => simp [hn] at h
      | some digits =>
          rw [hn] at h
          exact Except.ok.inj h ▸ Decimal.writeInteger?_ne_nil hn
  | float x =>
      rw [← Except.ok.inj h]
      simpa using Decimal.write_ne_empty x
  | str text => rw [← Except.ok.inj h]; simp [Text.quoteChars]
  | bytes content => rw [← Except.ok.inj h]; simp [Text.quotedBytes]
  | list items | tuple items =>
      rw [literalChars] at h
      cases hi : literalItems items with
      | error f => rw [hi] at h; cases h
      | ok texts => rw [hi] at h; rw [← Except.ok.inj h]; simp
  | dict entries =>
      rw [literalChars] at h
      cases hi : literalEntries entries with
      | error f => rw [hi] at h; cases h
      | ok texts => rw [hi] at h; rw [← Except.ok.inj h]; simp

theorem literal_ne_empty {v : Value} {text : String} (h : v.literal = .ok text) : text ≠ "" := by
  unfold literal at h
  cases hc : literalChars v with
  | error f => rw [hc] at h; cases h
  | ok chars =>
      rw [hc] at h
      exact Except.ok.inj h ▸ ofList_ne_empty (literalChars_ne_nil hc)

theorem toText_ne_empty {v : Value} {text : String} (hv : v.isTruthy) (h : v.toText = .ok text) :
    text ≠ "" := by
  cases v with
  | null => cases hv
  | bool b => rw [← Except.ok.inj h]; cases b <;> decide
  | str s => rw [← Except.ok.inj h]; simpa [isTruthy] using hv
  | list items =>
      rw [toText] at h
      split at h
      · next chars hj =>
          rw [jsonChars?, Option.map_eq_some_iff] at hj
          obtain ⟨texts, -, rfl⟩ := hj
          exact Except.ok.inj h ▸ ofList_ne_empty (by simp)
      · exact literal_ne_empty h
  | dict entries =>
      rw [toText] at h
      split at h
      · next chars hj =>
          rw [jsonChars?, Option.map_eq_some_iff] at hj
          obtain ⟨texts, -, rfl⟩ := hj
          exact Except.ok.inj h ▸ ofList_ne_empty (by simp)
      · exact literal_ne_empty h
  | _ => exact literal_ne_empty h

end Value

/-! ## Answers -/

/-- Whether a value counts as nothing although it is written as some text: false, zero, and what is
    empty without being a text. -/
def Value.isHollow : Value → Bool
  | .null | .str _ => false
  | v => !v.isTruthy

/-- A hollow value has a text of its own. -/
theorem Value.toText_of_isHollow {v : Value} (h : v.isHollow) :
    ∃ text, v.toText = .ok text ∧ text ≠ "" := by
  cases v with
  | null | str => cases h
  | float x => exact ⟨_, rfl, literal_ne_empty (v := .float x) rfl⟩
  | bool b => cases b <;> exact ⟨_, rfl, by decide⟩
  | int n =>
      obtain rfl : n = 0 := by simpa [isHollow, isTruthy] using h
      exact ⟨_, rfl, by decide⟩
  | bytes items | list items | tuple items | dict items =>
      obtain rfl : items = [] := by simpa [isHollow, isTruthy] using h
      exact ⟨_, rfl, by decide⟩

namespace Context

/-- An answer that counts as nothing is written as the empty text, unless it is hollow. -/
theorem answer_of_not_isTruthy {c : Context} (h : ¬ (c.get? "answer").any Value.isTruthy) :
    ∃ text, c.answer = .ok text ∧ (text ≠ "" ↔ (c.get? "answer").any Value.isHollow) := by
  unfold answer
  cases hv : c.get? "answer" with
  | none => exact ⟨"", rfl, by simp⟩
  | some v =>
      have hfalse : v.isTruthy = false := by simpa [hv] using h
      by_cases hhollow : v.isHollow
      · obtain ⟨text, htext, hne⟩ := Value.toText_of_isHollow hhollow
        refine ⟨text, ?_, by simp [hne, hhollow]⟩
        cases v with
        | null => cases hhollow
        | _ => exact htext
      · cases v with
        | null => exact ⟨"", rfl, by simp [Value.isHollow]⟩
        | str text =>
            obtain rfl : text = "" := by simpa [Value.isTruthy] using hfalse
            exact ⟨"", rfl, by simp [Value.isHollow]⟩
        | _ => exact absurd (by simpa [Value.isHollow] using hfalse) hhollow

/-- The text of an answer that counts as something is not empty. -/
theorem answer_ne_empty {c : Context} {text : String} (hc : (c.get? "answer").any Value.isTruthy)
    (h : c.answer = .ok text) : text ≠ "" := by
  unfold answer at h
  cases hv : c.get? "answer" with
  | none => simp [hv] at hc
  | some v =>
      have htruthy : v.isTruthy := by simpa [hv] using hc
      rw [hv] at h
      cases v with
      | null => cases htruthy
      | _ => exact Value.toText_ne_empty htruthy h

end Context

end AgentScript
