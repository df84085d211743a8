import AgentScript.Text.Blank
import AgentScript.Text.Search
import AgentScript.Text.Word

set_option autoImplicit false

/-! # Words and blanks

No word character is a blank (`isWordChar_of_isBlank`): the two tables have no code point in common.
So a word ends where a blank begins, and the other way round. Reading a given word takes just this
word off the front of a text (`matchText_eq_some_iff`). -/

namespace AgentScript.Text

/-! ## Runs of characters -/

section Runs

variable {p : Char → Bool} {run rest : List Char} (hrun : ∀ c ∈ run, p c)
  (hrest : ∀ c ∈ rest.head?, p c = false)

include hrun hrest

/-- A run ends in front of the first character that does not belong to it. -/
theorem takeWhile_run : (run ++ rest).takeWhile p = run := by
  rw [List.takeWhile_append_of_pos hrun]
  cases rest with
  | nil => exact List.append_nil run
  | cons c rest => rw [List.takeWhile_cons_of_neg (by simp [hrest c rfl]), List.append_nil]

theorem dropWhile_run : (run ++ rest).dropWhile p = rest := by
  rw [List.dropWhile_append_of_pos hrun]
  cases rest with
  | nil => rfl
  | cons c rest => exact List.dropWhile_cons_of_neg (by simp [hrest c rfl])

end Runs

/-- What is left after a run does not begin with a character that belongs to it. -/
theorem of_mem_head?_dropWhile {p : Char → Bool} {s : List Char} {c : Char}
    (hc : c ∈ (s.dropWhile p).head?) : p c = false := by
  have hhead := List.head?_dropWhile_not p s
  rw [Option.mem_def.1 hc] at hhead
  exact hhead

/-! ## Words in front of a text -/

theorem matchText_eq_some_iff {word s rest : List Char} :
    matchText word s = some rest ↔ s = word ++ rest := by
  induction word generalizing s with
  | nil => exact ⟨fun h => Option.some.inj h, fun h => congrArg some h⟩
  | cons w word ih =>
      cases s with
      | nil => simp [matchText]
      | cons c s =>
          rw [matchText, List.cons_append, List.cons.injEq]
          by_cases hc : w = c
          · simp [hc, ih]
          · simp [hc, Ne.symm hc]

/-! ## Sets without common characters -/

/-- Whether no range of one set meets a range of the other. -/
def CharSet.isDisjoint (s t : CharSet) : Bool :=
  s.ranges.all fun r => t.ranges.all fun q => r.2 < q.1 || q.2 < r.1

theorem CharSet.contains_of_isDisjoint {s t : CharSet} (h : s.isDisjoint t) {c : Char}
    (hc : s.contains c) : t.contains c = false := by
  obtain ⟨r, hr, hrc⟩ := List.any_eq_true.1 hc
  refine List.any_eq_false.2 fun q hq hqc => ?_
  have hrq := List.all_eq_true.1 (List.all_eq_true.1 h r hr) q hq
  simp only [Bool.and_eq_true, Bool.or_eq_true, decide_eq_true_eq] at hrc hqc hrq
  omega

/-! ## Word characters -/

theorem isWordChar_of_isBlank {c : Char} (h : isBlank c) : isWordChar c = false := by
  rw [isWordChar]
  split
  · next hascii =>
      -- the blanks of ASCII come before all letters and digits
      have hrange : c.toNat ≤ 32 := by
        simp [isBlank, blanks, CharSet.contains] at h
        omega
      have hcodes : ∀ n < 33, ((Char.ofNat n).isAlphanum || Char.ofNat n == '_') = false := by
        decide
      rw [← Char.ofNat_toNat c]
      exact hcodes c.toNat (Nat.lt_succ_of_le hrange)
  · have htables : blanks.isDisjoint alphanumericTable := by decide +kernel
    exact CharSet.contains_of_isDisjoint htables h

theorem isBlank_of_isWordChar {c : Char} (h : isWordChar c) : isBlank c = false := by
  cases hc : isBlank c with
  | false => rfl
  | true =>
      have hword := isWordChar_of_isBlank hc
      rw [h] at hword
      cases hword

end AgentScript.Text
