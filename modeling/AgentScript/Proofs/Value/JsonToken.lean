import AgentScript.Proofs.Value.JsonNumber
import AgentScript.Proofs.Value.JsonString

set_option autoImplicit false

/-! # The tokens of what is written

Every text that is written for a value without parts is one token, and the text after it gives the
tokens after it. For an integer this takes a text after it that cannot belong to a number. -/

namespace AgentScript.Value

theorem tokens_blank (rest : List Char) : tokens (' ' :: rest) = tokens rest := by
  rw [tokens, if_pos (by decide)]

theorem tokens_cons {c : Char} (hc : isJsonBlank c = false) (rest : List Char) :
    tokens (c :: rest) = (nextToken c rest).1 :: tokens (nextToken c rest).2 := by
  rw [tokens, if_neg (by rw [hc]; exact Bool.false_ne_true)]

theorem tokens_punctuation {c : Char} {t : Token} (hc : isJsonBlank c = false)
    (ht : punctuation? c = some t) (rest : List Char) : tokens (c :: rest) = t :: tokens rest := by
  rw [tokens_cons hc, nextToken, ht]

theorem tokens_null (rest : List Char) :
    tokens ("null".toList ++ rest) = .atom .null :: tokens rest :=
  tokens_cons rfl _

theorem tokens_bool (b : Bool) (rest : List Char) :
    tokens ((if b then "true" else "false").toList ++ rest) = .atom (.bool b) :: tokens rest := by
  cases b <;> exact tokens_cons rfl _

theorem tokens_jsonString (text rest : List Char) :
    tokens (jsonString text ++ rest) = .atom (.str (String.ofList text)) :: tokens rest := by
  have hwritten : jsonString text ++ rest
      = '"' :: (text.flatMap escapeJsonChar ++ '"' :: rest) := by
    simp [jsonString]
  have htoken : nextToken '"' (text.flatMap escapeJsonChar ++ '"' :: rest)
      = (.atom (.str (String.ofList text)), rest) := by
    unfold nextToken
    simp only [beq_self_eq_true, if_true, readString_flatMap]
    rfl
  rw [hwritten, tokens_cons rfl, htoken]

/-- A digit or a sign begins neither a string nor a bracket. -/
theorem nextToken_number {c : Char} (hc : c.isDigit = true ∨ c = '-') {s rest : List Char}
    {v : Value} (hnamed : readNamed (c :: s) = none)
    (hnumber : readNumber (c :: s) = some (v, rest)) :
    isJsonBlank c = false ∧ nextToken c s = (.atom v, rest) := by
  have hne {d : Char} (hd : d.isDigit = false) (hsign : d ≠ '-') : (c == d) = false := by
    rcases hc with hc | rfl
    · simpa using (ne_of_isDigit hc hd).symm
    · simpa using hsign.symm
  constructor
  · simp [isJsonBlank, hne (d := ' ') rfl, hne (d := '\t') rfl, hne (d := '\n') rfl,
      hne (d := '\r') rfl]
  · have hpunctuation : punctuation? c = none := by
      simp [punctuation?, hne (d := '[') rfl, hne (d := ']') rfl, hne (d := '\x7b') rfl,
        hne (d := '\x7d') rfl, hne (d := ',') rfl, hne (d := ':') rfl]
    unfold nextToken
    rw [hpunctuation]
    simp only [hne (d := '"') rfl (by decide), hnamed, hnumber]
    rfl

theorem tokens_writeInteger? {n : Int} {digits rest : List Char}
    (h : Decimal.writeInteger? n = some digits) (hrest : EndsValue rest) :
    tokens (digits ++ rest) = .atom (.int n) :: tokens rest := by
  have hnamed := readNamed_writeInteger? h rest
  have hnumber := readNumber_writeInteger? h hrest
  obtain ⟨c, s, hs, hc⟩ : ∃ c s, digits ++ rest = c :: s ∧ (c.isDigit = true ∨ c = '-') := by
    obtain ⟨-, rfl⟩ := writeInteger?_eq_some h
    split
    · exact ⟨'-', _, rfl, .inr rfl⟩
    · obtain ⟨c, more, hdigits, hc⟩ := toDigits_eq_cons n.natAbs
      exact ⟨c, more ++ rest, by rw [hdigits]; rfl, .inl hc⟩
  rw [hs] at hnamed hnumber ⊢
  obtain ⟨hblank, htoken⟩ := nextToken_number hc hnamed hnumber
  rw [tokens_cons hblank, htoken]

end AgentScript.Value
