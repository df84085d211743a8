import AgentScript.Value.JsonToken

set_option autoImplicit false

/-! # Integers in structured text

An integer that is written in decimal digits is read back, provided that what follows cannot belong
to a number (`readNumber_writeInteger?`). -/

namespace AgentScript.Value

/-- What follows a value in structured text, if anything does: a comma or a closing bracket. -/
def EndsValue (rest : List Char) : Prop :=
  ∀ c ∈ rest.head?, c = ',' ∨ c = ']' ∨ c = '\x7d'

theorem endsValue_nil : EndsValue [] := nofun

theorem endsValue_cons {c : Char} (h : c = ',' ∨ c = ']' ∨ c = '\x7d') (rest : List Char) :
    EndsValue (c :: rest) := by
  rintro _ ⟨⟩
  exact h

/-! ## Digits -/

theorem toDigits_isDigit {n : Nat} {c : Char} (h : c ∈ Nat.toDigits 10 n) : c.isDigit = true :=
  Nat.isDigit_of_mem_toDigits (by decide) (by decide) h

theorem digitChar_ne_zero : ∀ d < 10, d ≠ 0 → Nat.digitChar d ≠ '0' := by
  decide

/-- A positive number is written without a zero in front. -/
theorem toDigits_head {n : Nat} (h : 0 < n) :
    ∃ c digits, Nat.toDigits 10 n = c :: digits ∧ c ≠ '0' := by
  induction n using Nat.strongRecOn with
  | ind n ih =>
      by_cases hsmall : n < 10
      · refine ⟨Nat.digitChar n, [], Nat.toDigits_of_lt_base hsmall, ?_⟩
        exact digitChar_ne_zero n hsmall (by omega)
      · obtain ⟨c, digits, hdigits, hc⟩ := ih (n / 10) (by omega) (by omega)
        refine ⟨c, digits ++ [Nat.digitChar (n % 10)], ?_, hc⟩
        rw [Nat.toDigits_of_base_le (by decide) (by omega), hdigits, List.cons_append]

theorem natOfChars_toDigits (n : Nat) : Decimal.natOfChars (Nat.toDigits 10 n) = n := by
  unfold Decimal.natOfChars Text.natOfDigits
  rw [List.foldl_map]
  exact Nat.ofDigitChars_ten_toDigits

/-! ## The parts of a number -/

section

variable {rest : List Char} (h : EndsValue rest)

include h

theorem takeWhile_isDigit_endsValue : rest.takeWhile Char.isDigit = [] := by
  cases rest with
  | nil => rfl
  | cons c rest =>
      obtain rfl | rfl | rfl := h c rfl <;> rfl

theorem dropWhile_isDigit_endsValue : rest.dropWhile Char.isDigit = rest := by
  cases rest with
  | nil => rfl
  | cons c rest =>
      obtain rfl | rfl | rfl := h c rfl <;> rfl

theorem fractionPart_endsValue : fractionPart rest = (none, rest) := by
  cases rest with
  | nil => rfl
  | cons c rest =>
      obtain rfl | rfl | rfl := h c rfl <;> rfl

theorem exponentPart_endsValue : exponentPart rest = (none, rest) := by
  cases rest with
  | nil => rfl
  | cons c rest =>
      obtain rfl | rfl | rfl := h c rfl <;> rfl

theorem wholePart_toDigits (n : Nat) :
    wholePart (Nat.toDigits 10 n ++ rest) = some (Nat.toDigits 10 n, rest) := by
  obtain rfl | hpos := Nat.eq_zero_or_pos n
  · -- a lone zero ends the whole part by itself
    rw [Nat.toDigits_zero]
    rfl
  · obtain ⟨c, digits, hdigits, hc⟩ := toDigits_head hpos
    have hall : ∀ d ∈ c :: digits, d.isDigit = true := by
      rw [← hdigits]
      exact fun d hd => toDigits_isDigit hd
    have htail : ∀ d ∈ digits, d.isDigit = true := fun d hd => hall d (List.mem_cons_of_mem c hd)
    rw [hdigits, List.cons_append, wholePart, if_neg (by simpa using hc),
      if_pos (hall c List.mem_cons_self), List.takeWhile_append_of_pos htail,
      List.dropWhile_append_of_pos htail, takeWhile_isDigit_endsValue h,
      dropWhile_isDigit_endsValue h, List.append_nil]

end

/-! ## Integers -/

/-- What an integer is written with: digits, after a sign if it is negative. -/
theorem writeInteger?_eq_some {n : Int} {digits : List Char}
    (h : Decimal.writeInteger? n = some digits) :
    (Nat.toDigits 10 n.natAbs).length ≤ digitLimit
      ∧ digits = if n < 0 then '-' :: Nat.toDigits 10 n.natAbs else Nat.toDigits 10 n.natAbs := by
  unfold Decimal.writeInteger? at h
  dsimp only at h
  split at h
  · next hlimit => exact ⟨hlimit, (Option.some.inj h).symm⟩
  · cases h

theorem numberOf_toDigits {negative : Bool} {size : Nat}
    (h : (Nat.toDigits 10 size).length ≤ digitLimit) :
    numberOf negative (Nat.toDigits 10 size) none none
      = some (.int (if negative then -(size : Int) else size)) := by
  simp only [numberOf, natOfChars_toDigits, if_pos h]

theorem toDigits_eq_cons (n : Nat) :
    ∃ c digits, Nat.toDigits 10 n = c :: digits ∧ c.isDigit = true := by
  cases h : Nat.toDigits 10 n with
  | nil => exact absurd h Nat.toDigits_ne_nil
  | cons c digits => exact ⟨c, digits, rfl, toDigits_isDigit (by rw [h]; exact List.mem_cons_self)⟩

/-- A digit is neither a blank nor the beginning of a value that is not a number. -/
theorem ne_of_isDigit {c d : Char} (h : c.isDigit = true) (hd : d.isDigit = false) : d ≠ c := by
  rintro rfl
  exact absurd h (by rw [hd]; decide)

theorem head?_digits (n : Nat) (rest : List Char) :
    ((Nat.toDigits 10 n ++ rest).head? == some '-') = false := by
  obtain ⟨c, digits, hdigits, hc⟩ := toDigits_eq_cons n
  rw [hdigits]
  have hne : c ≠ '-' := (ne_of_isDigit hc rfl).symm
  simpa using hne

/-- An integer that is written in digits is read back. -/
theorem readNumber_writeInteger? {n : Int} {digits rest : List Char}
    (h : Decimal.writeInteger? n = some digits) (hrest : EndsValue rest) :
    readNumber (digits ++ rest) = some (.int n, rest) := by
  obtain ⟨hlimit, rfl⟩ := writeInteger?_eq_some h
  have hread (negative : Bool) {s : List Char} (hsign : (s.head? == some '-') = negative)
      (hs : (if negative then s.drop 1 else s) = Nat.toDigits 10 n.natAbs ++ rest) :
      readNumber s = some (.int (if negative then -(n.natAbs : Int) else n.natAbs), rest) := by
    rw [readNumber, hsign, hs, wholePart_toDigits hrest]
    simp only [Option.bind_eq_bind, Option.bind_some, fractionPart_endsValue hrest,
      exponentPart_endsValue hrest, numberOf_toDigits hlimit]
    rfl
  by_cases hneg : n < 0
  · have hsize : -(n.natAbs : Int) = n := by omega
    rw [if_pos hneg, hread true rfl rfl, if_pos rfl, hsize]
  · have hsize : (n.natAbs : Int) = n := by omega
    rw [if_neg hneg, hread false (head?_digits _ _) rfl, if_neg Bool.false_ne_true, hsize]

theorem matchText_eq_none {w c : Char} (h : w ≠ c) (word s : List Char) :
    Text.matchText (w :: word) (c :: s) = none := by
  rw [Text.matchText, if_neg]
  simpa using h

/-- An integer is not taken for a value with a name. -/
theorem readNamed_writeInteger? {n : Int} {digits : List Char}
    (h : Decimal.writeInteger? n = some digits) (rest : List Char) :
    readNamed (digits ++ rest) = none := by
  obtain ⟨-, rfl⟩ := writeInteger?_eq_some h
  obtain ⟨c, more, hdigits, hc⟩ := toDigits_eq_cons n.natAbs
  have hnone {w : Char} (hw : w.isDigit = false) (word s : List Char) :
      Text.matchText (w :: word) (c :: s) = none :=
    matchText_eq_none (ne_of_isDigit hc hw) word s
  rw [hdigits]
  refine List.findSome?_eq_none_iff.2 fun named hnamed => ?_
  simp only [namedValues, List.mem_cons, List.not_mem_nil, or_false] at hnamed
  by_cases hneg : n < 0
  · -- after the sign comes a digit, and no infinity
    rw [if_pos hneg]
    obtain rfl | rfl | rfl | rfl | rfl | rfl := hnamed
    all_goals
      refine Option.map_eq_none_iff.2 ?_
      first
      | exact matchText_eq_none (by decide) _ _
      | exact hnone rfl _ _
  · rw [if_neg hneg]
    obtain rfl | rfl | rfl | rfl | rfl | rfl := hnamed
    all_goals
      exact Option.map_eq_none_iff.2 (hnone rfl _ _)

end AgentScript.Value
