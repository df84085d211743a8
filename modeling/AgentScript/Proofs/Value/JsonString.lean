import AgentScript.Value.JsonToken

set_option autoImplicit false

/-! # Strings in structured text

A text that is written as a JSON string is read back, whatever follows the closing quote
(`readString_flatMap`). The characters of the text are followed through three stages: as they are
written they are taken up to the closing quote, then they become code units, and the code units
become characters again. A character is written in one of three ways (`Escape`), and no stage needs
to know more than this. -/

namespace AgentScript.Value

/-! ## How a character is written -/

/-- The ways in which a character may be written: by a letter, by its number, or as it is. -/
inductive Escape (c : Char) : List Char → Prop where
  | letter {e : Char} (he : e ≠ 'u') (hnamed : namedEscape? e = some c) : Escape c ['\\', e]
  | number (hc : c.toNat < 0x20) :
      Escape c ['\\', 'u', '0', '0', Nat.digitChar (c.toNat / 16), Nat.digitChar (c.toNat % 16)]
  | plain (hquote : c ≠ '"') (hslash : c ≠ '\\') (hc : ¬ c.toNat < 0x20) : Escape c [c]

theorem hexPadded_control : ∀ n < 0x20,
    Text.hexPadded 4 n = ['0', '0', Nat.digitChar (n / 16), Nat.digitChar (n % 16)] := by
  decide

theorem hexUnit?_control : ∀ n < 0x20,
    hexUnit? '0' '0' (Nat.digitChar (n / 16)) (Nat.digitChar (n % 16)) = some n := by
  decide

theorem digitChar_plain : ∀ d < 16, Nat.digitChar d ≠ '"' ∧ Nat.digitChar d ≠ '\\' := by
  decide

theorem escape_escapeJsonChar (c : Char) : Escape c (escapeJsonChar c) := by
  have letter {d e : Char} (h : (c == d) = true) (he : e ≠ 'u') (hnamed : namedEscape? e = some d) :
      Escape c ['\\', e] := .letter he (by rw [hnamed, eq_of_beq h])
  unfold escapeJsonChar
  split
  · next h => exact letter h (by decide) (by decide)
  split
  · next h => exact letter h (by decide) (by decide)
  split
  · next h => exact letter h (by decide) (by decide)
  split
  · next h => exact letter h (by decide) (by decide)
  split
  · next h => exact letter h (by decide) (by decide)
  split
  · next h => exact letter h (by decide) (by decide)
  split
  · next h => exact letter h (by decide) (by decide)
  split
  · next hc =>
      rw [hexPadded_control c.toNat hc]
      exact .number hc
  · next hquote hslash _ _ _ _ _ hc =>
      exact .plain (fun h => hquote (beq_iff_eq.2 h)) (fun h => hslash (beq_iff_eq.2 h)) hc

/-! ## Up to the closing quote -/

theorem stringBody_cons {c : Char} (hquote : c ≠ '"') (hslash : c ≠ '\\') (s : List Char) :
    stringBody (c :: s) = (stringBody s).map fun (body, after) => (c :: body, after) := by
  rw [stringBody]
  · exact hquote
  · intro _ _ h
    exact absurd h hslash

theorem stringBody_escape (e : Char) (s : List Char) :
    stringBody ('\\' :: e :: s)
      = (stringBody s).map fun (body, after) => ('\\' :: e :: body, after) := by
  rw [stringBody]

/-- A character as it is written is taken whole. -/
theorem Escape.stringBody {c : Char} {written : List Char} (h : Escape c written)
    {s body after : List Char} (hs : stringBody s = some (body, after)) :
    stringBody (written ++ s) = some (written ++ body, after) := by
  cases h with
  | letter => simp [stringBody_escape, hs]
  | number hc =>
      obtain ⟨hquote₁, hslash₁⟩ := digitChar_plain (c.toNat / 16) (by omega)
      obtain ⟨hquote₂, hslash₂⟩ := digitChar_plain (c.toNat % 16) (by omega)
      simp only [List.cons_append, List.nil_append]
      rw [stringBody_escape, stringBody_cons (by decide) (by decide),
        stringBody_cons (by decide) (by decide), stringBody_cons hquote₁ hslash₁,
        stringBody_cons hquote₂ hslash₂, hs]
      rfl
  | plain hquote hslash => simp [stringBody_cons hquote hslash, hs]

/-- A text as it is written is taken up to the quote that closes it. -/
theorem stringBody_flatMap (text rest : List Char) :
    stringBody (text.flatMap escapeJsonChar ++ '"' :: rest)
      = some (text.flatMap escapeJsonChar, rest) := by
  induction text with
  | nil => rw [List.flatMap_nil, List.nil_append, stringBody]
  | cons c text ih =>
      rw [List.flatMap_cons, List.append_assoc]
      exact (escape_escapeJsonChar c).stringBody ih

/-! ## Code units -/

/-- A character as it is written is one code unit. -/
theorem Escape.stringUnits {c : Char} {written : List Char} (h : Escape c written)
    {s : List Char} {units : List Nat} (hs : stringUnits s = some units) :
    stringUnits (written ++ s) = some (c.toNat :: units) := by
  cases h with
  | @letter e he hnamed =>
      simp only [List.cons_append, List.nil_append]
      rw [Value.stringUnits, hnamed, hs]
      · rfl
      · intro _ _ _ _ _ hu
        exact absurd hu he
  | number hc =>
      simp only [List.cons_append, List.nil_append]
      rw [Value.stringUnits, hexUnit?_control c.toNat hc, hs]
      rfl
  | plain hquote hslash hc =>
      simp only [List.cons_append, List.nil_append]
      rw [Value.stringUnits, if_neg hc, hs]
      · rfl
      all_goals
        intros
        exact hslash ‹_›

theorem stringUnits_flatMap (text : List Char) :
    stringUnits (text.flatMap escapeJsonChar) = some (text.map Char.toNat) := by
  induction text with
  | nil => rw [List.flatMap_nil, stringUnits, List.map_nil]
  | cons c text ih =>
      rw [List.flatMap_cons, List.map_cons]
      exact (escape_escapeJsonChar c).stringUnits ih

/-! ## Characters again -/

theorem not_surrogate (c : Char) :
    isHighSurrogate c.toNat = false ∧ isLowSurrogate c.toNat = false := by
  have hvalid : c.toNat < 0xD800 ∨ 0xDFFF < c.toNat ∧ c.toNat < 0x110000 := c.valid
  constructor
  · simp only [isHighSurrogate, Bool.and_eq_false_iff, decide_eq_false_iff_not]
    omega
  · simp only [isLowSurrogate, Bool.and_eq_false_iff, decide_eq_false_iff_not]
    omega

theorem unitChar_toNat (c : Char) : unitChar c.toNat = c := by
  obtain ⟨hhigh, hlow⟩ := not_surrogate c
  rw [unitChar, hhigh, hlow]
  exact Char.ofNat_toNat c

/-- Code units of their own become the characters they were. -/
theorem joinUnits_map (text : List Char) : joinUnits (text.map Char.toNat) = text := by
  induction text with
  | nil => rfl
  | cons c rest ih =>
      cases rest with
      | nil => exact congrArg (fun d => [d]) (unitChar_toNat c)
      | cons d rest =>
          rw [List.map_cons, List.map_cons, joinUnits, (not_surrogate c).1, unitChar_toNat]
          rw [List.map_cons] at ih
          rw [ih]
          rfl

/-- A text that is written as a string is read back. -/
theorem readString_flatMap (text rest : List Char) :
    readString (text.flatMap escapeJsonChar ++ '"' :: rest) = some (String.ofList text, rest) := by
  unfold readString
  rw [stringBody_flatMap]
  change (do
    let units ← stringUnits (text.flatMap escapeJsonChar)
    return (String.ofList (joinUnits units), rest)) = _
  rw [stringUnits_flatMap]
  change some (String.ofList (joinUnits (text.map Char.toNat)), rest) = _
  rw [joinUnits_map]

end AgentScript.Value
