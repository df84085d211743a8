import AgentScript.Proofs.Text.Phrase
import AgentScript.Proofs.Text.Word

set_option autoImplicit false

/-! # Spellings of phrases

A keyword may be spelled in any case, and a phrase with any blanks between its keywords. Reading a
phrase takes a spelling of it off the text and nothing else (`Phrase.match?_eq_some_iff`). In every
spelling the letters of a keyword are word characters, so a spelled phrase has its first keyword for
its first word (`Phrase.IsSpelledBy.first_word`). -/

namespace AgentScript.Text

/-! ## Keywords and blanks -/

/-- A text spells a keyword: letter by letter it is seen as the keyword. -/
def Spells (s word : List Char) : Prop :=
  s.map foldLetter = word

/-- One blank or more, and nothing else. -/
def AreBlanks (s : List Char) : Prop :=
  s ≠ [] ∧ ∀ c ∈ s, isBlank c

/-- A text does not begin with a blank. -/
def StartsBare (s : List Char) : Prop :=
  ∀ c ∈ s.head?, isBlank c = false

/-- Reading a keyword takes a spelling of it off the text. -/
theorem matchKeyword_eq_some_iff {word s rest : List Char} :
    matchKeyword word s = some rest ↔ ∃ spelling, Spells spelling word ∧ spelling ++ rest = s := by
  induction word generalizing s with
  | nil =>
      constructor
      · intro h
        cases h
        exact ⟨[], rfl, rfl⟩
      · rintro ⟨spelling, hspelling, rfl⟩
        rw [List.map_eq_nil_iff.1 hspelling]
        rfl
  | cons w word ih =>
      constructor
      · intro h
        cases s with
        | nil => cases h
        | cons c s =>
            rw [matchKeyword_cons] at h
            split at h
            · next hc =>
                obtain ⟨spelling, hspelling, rfl⟩ := ih.1 h
                exact ⟨c :: spelling, List.cons_eq_cons.2 ⟨beq_iff_eq.1 hc, hspelling⟩, rfl⟩
            · cases h
      · rintro ⟨spelling, hspelling, rfl⟩
        obtain ⟨c, spelling, rfl, hc, hspelling⟩ := List.map_eq_cons_iff.1 hspelling
        rw [List.cons_append, matchKeyword_cons, if_pos (beq_iff_eq.2 hc)]
        exact ih.2 ⟨spelling, hspelling, rfl⟩

/-- Reading blanks takes all blanks off the text, and there must be one. -/
theorem matchBlanks_eq_some_iff {s rest : List Char} :
    matchBlanks s = some rest ↔ ∃ gap, AreBlanks gap ∧ gap ++ rest = s ∧ StartsBare rest := by
  constructor
  · intro h
    cases s with
    | nil => cases h
    | cons c s =>
        rw [matchBlanks] at h
        split at h
        · next hc =>
            obtain rfl := Option.some.inj h
            refine ⟨c :: s.takeWhile isBlank, ⟨List.cons_ne_nil _ _, ?_⟩, ?_,
              fun d => of_mem_head?_dropWhile⟩
            · rintro d (_ | ⟨_, hd⟩)
              · exact hc
              · exact List.mem_takeWhile_imp hd
            · rw [List.cons_append, List.takeWhile_append_dropWhile]
        · cases h
  · rintro ⟨gap, ⟨hne, hgap⟩, rfl, hrest⟩
    cases gap with
    | nil => exact absurd rfl hne
    | cons c gap =>
        rw [List.cons_append, matchBlanks, if_pos (hgap c List.mem_cons_self),
          dropWhile_run (fun d hd => hgap d (List.mem_cons_of_mem c hd)) hrest]

/-- No spelling of a keyword begins with a blank. -/
theorem Spells.startsBare {s word : List Char} (h : Spells s word) (hword : isKeyword word)
    (rest : List Char) : StartsBare (s ++ rest) := by
  cases s with
  | nil => exact absurd (Eq.symm h) (isKeyword_ne_nil hword)
  | cons c s =>
      rintro d ⟨⟩
      have hletter : foldLetter c ∈ word := h ▸ List.mem_cons_self
      by_contra hblank
      rw [Bool.not_eq_false] at hblank
      rw [foldLetter_of_isBlank hblank] at hletter
      rw [(isKeyword_mem hword hletter).1] at hblank
      cases hblank

/-! ## Phrases -/

namespace Phrase

/-- A text spells a phrase: its two keywords with blanks between them. -/
def IsSpelledBy (p : Phrase) (s : List Char) : Prop :=
  ∃ first gap second, s = first ++ (gap ++ second) ∧ Spells first p.first.toList ∧ AreBlanks gap
    ∧ Spells second p.second.toList

variable {p : Phrase}

/-- Reading a phrase takes a spelling of it off the text. -/
theorem match?_eq_some_iff (hp : p.IsPlain) {s rest : List Char} :
    p.match? s = some rest ↔ ∃ phrase, p.IsSpelledBy phrase ∧ phrase ++ rest = s := by
  constructor
  · intro h
    obtain ⟨afterBlanks, h, hreadSecond⟩ := Option.bind_eq_some_iff.1 h
    obtain ⟨afterFirst, hreadFirst, hreadBlanks⟩ := Option.bind_eq_some_iff.1 h
    obtain ⟨first, hfirst, rfl⟩ := matchKeyword_eq_some_iff.1 hreadFirst
    obtain ⟨gap, hgap, rfl, -⟩ := matchBlanks_eq_some_iff.1 hreadBlanks
    obtain ⟨second, hsecond, rfl⟩ := matchKeyword_eq_some_iff.1 hreadSecond
    exact ⟨_, ⟨first, gap, second, rfl, hfirst, hgap, hsecond⟩, by simp⟩
  · rintro ⟨_, ⟨first, gap, second, rfl, hfirst, hgap, hsecond⟩, rfl⟩
    rw [List.append_assoc, List.append_assoc, match?,
      matchKeyword_eq_some_iff.2 ⟨first, hfirst, rfl⟩, Option.bind_some,
      matchBlanks_eq_some_iff.2 ⟨gap, hgap, rfl, hsecond.startsBare hp.second rest⟩,
      Option.bind_some]
    exact matchKeyword_eq_some_iff.2 ⟨second, hsecond, rfl⟩

/-! ## The first word of a phrase -/

/-- Whether both keywords of a phrase are letters only. -/
def IsLettered (p : Phrase) : Prop :=
  (∀ w ∈ p.first.toList, w.isLower) ∧ ∀ w ∈ p.second.toList, w.isLower

instance (p : Phrase) : Decidable p.IsLettered :=
  @instDecidableAnd _ _ (List.decidableBAll _ _) (List.decidableBAll _ _)

end Phrase

theorem isWordChar_of_isAlphanum {c : Char} (h : c.isAlphanum) : isWordChar c := by
  have hascii : c.toNat < 128 := by
    have below {last : Char} (hc : c.val ≤ last.val) (hlast : last.toNat < 128) : c.toNat < 128 :=
      Nat.lt_of_le_of_lt (UInt32.le_iff_toNat_le.1 hc) hlast
    rcases Bool.or_eq_true_iff.1 h with hletter | hdigit
    · rcases Bool.or_eq_true_iff.1 hletter with hupper | hlower
      · exact below (of_decide_eq_true hupper).2 (by decide : 'Z'.toNat < 128)
      · exact below (of_decide_eq_true (Bool.and_eq_true_iff.1 hlower).2)
          (by decide : 'z'.toNat < 128)
    · exact below (of_decide_eq_true (Bool.and_eq_true_iff.1 hdigit).2)
        (by decide : '9'.toNat < 128)
  rw [isWordChar, if_pos hascii, h, Bool.true_or]

/-- What looks like a letter to a keyword is a word character. -/
theorem isWordChar_of_foldLetter {c : Char} (h : (foldLetter c).isLower) : isWordChar c := by
  unfold foldLetter at h
  split at h
  · next hc =>
      rw [beq_iff_eq.1 hc]
      decide +kernel
  split at h
  · next hc =>
      rcases Bool.or_eq_true_iff.1 hc with hc | hc <;> rw [beq_iff_eq.1 hc] <;> decide +kernel
  split at h
  · next hc =>
      rw [beq_iff_eq.1 hc]
      decide +kernel
  · refine isWordChar_of_isAlphanum ?_
    unfold Char.toLower at h
    split at h
    · next hupper =>
        exact Bool.or_eq_true_iff.2 (.inl (Bool.or_eq_true_iff.2 (.inl (decide_eq_true hupper))))
    · exact Bool.or_eq_true_iff.2 (.inl (Bool.or_eq_true_iff.2 (.inr h)))

theorem Spells.isWordChar {s word : List Char} (h : Spells s word) (hword : ∀ w ∈ word, w.isLower) :
    ∀ c ∈ s, isWordChar c := fun _ hc =>
  isWordChar_of_foldLetter (hword _ (h ▸ List.mem_map_of_mem hc))

namespace Phrase

variable {p : Phrase} {phrase : List Char}

/-- A text that begins with a phrase has the first keyword for its first word, and the second one
    after the blanks that follow the word. -/
theorem IsSpelledBy.first_word (h : p.IsSpelledBy phrase) (hp : p.IsPlain) (hletters : p.IsLettered)
    (rest : List Char) :
    Spells ((phrase ++ rest).takeWhile isWordChar) p.first.toList
      ∧ ∃ second, Spells second p.second.toList
        ∧ ((phrase ++ rest).dropWhile isWordChar).dropWhile isBlank = second ++ rest := by
  obtain ⟨first, gap, second, rfl, hfirst, hgap, hsecond⟩ := h
  have hwords := hfirst.isWordChar hletters.1
  have hstop : ∀ c ∈ (gap ++ (second ++ rest)).head?, Text.isWordChar c = false := by
    intro c hc
    cases gap with
    | nil => exact absurd rfl hgap.1
    | cons d gap =>
        cases hc
        exact isWordChar_of_isBlank (hgap.2 _ List.mem_cons_self)
  have hassoc : first ++ (gap ++ second) ++ rest = first ++ (gap ++ (second ++ rest)) := by simp
  rw [hassoc, takeWhile_run hwords hstop, dropWhile_run hwords hstop,
    dropWhile_run hgap.2 (hsecond.startsBare hp.second rest)]
  exact ⟨hfirst, second, hsecond, rfl⟩

end Phrase

end AgentScript.Text
