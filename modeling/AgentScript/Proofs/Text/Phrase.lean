import AgentScript.Text.Phrase
import Mathlib.Data.List.TakeWhile

set_option autoImplicit false

/-! # Where phrases occur

A search passes over a part of a text if no match begins in it, given what follows
(`splitAtMatch_append`). A match cannot reach over a blank with anything but its second keyword
(`Phrase.match?_append_blank`), so a part that ends in a blank is passed over whatever follows,
unless the second keyword right after it makes a match (`Phrase.absent_of_second`). -/

namespace AgentScript.Text

/-! ## Keywords and blanks -/

/-- A blank looks to a keyword like itself. -/
theorem foldLetter_of_isBlank {c : Char} (h : isBlank c) : foldLetter c = c := by
  have hne (d : Char) (hd : isBlank d = false) : (c == d) = false := by
    rw [beq_eq_false_iff_ne]
    rintro rfl
    rw [h] at hd
    cases hd
  have hlower : c.toLower = c := by
    have hrange : ¬ ('A'.val ≤ c.val ∧ c.val ≤ 'Z'.val) := by
      intro ⟨hA, hZ⟩
      have hA : 65 ≤ c.toNat := UInt32.le_iff_toNat_le.1 hA
      have hZ : c.toNat ≤ 90 := UInt32.le_iff_toNat_le.1 hZ
      simp [isBlank, blanks, CharSet.contains] at h
      omega
    exact dif_neg hrange
  rw [foldLetter, hne 'ſ' (by decide), hne 'İ' (by decide), hne 'ı' (by decide),
    hne '\u212A' (by decide)]
  exact hlower

/-- No blank is a letter of a keyword. -/
theorem foldLetter_ne_of_isBlank {c w : Char} (hc : isBlank c) (hw : isBlank w = false) :
    (foldLetter c == w) = false := by
  rw [foldLetter_of_isBlank hc, beq_eq_false_iff_ne]
  rintro rfl
  rw [hc] at hw
  cases hw

theorem matchKeyword_cons (w c : Char) (word s : List Char) :
    matchKeyword (w :: word) (c :: s) = if foldLetter c == w then matchKeyword word s else none :=
  rfl

/-- Whether a word is fit for a keyword: it is not empty, and has neither blanks nor letters that a
    keyword would see as others. -/
def isKeyword (word : List Char) : Bool :=
  !word.isEmpty && word.all fun w => !isBlank w && foldLetter w == w

theorem isKeyword_ne_nil {word : List Char} (h : isKeyword word) : word ≠ [] := by
  rintro rfl
  cases h

theorem isKeyword_mem {word : List Char} (h : isKeyword word) {w : Char} (hw : w ∈ word) :
    isBlank w = false ∧ foldLetter w = w := by
  simp only [isKeyword, Bool.and_eq_true, List.all_eq_true, Bool.not_eq_true', beq_iff_eq] at h
  exact h.2 w hw

/-- A keyword is matched before the next blank or not at all. -/
theorem matchKeyword_append_blank {word : List Char} (hword : ∀ w ∈ word, isBlank w = false)
    {c : Char} (hc : isBlank c) (y v : List Char) :
    matchKeyword word (y ++ c :: v) = (matchKeyword word y).map (· ++ c :: v) := by
  induction word generalizing y with
  | nil => rfl
  | cons w word ih =>
      cases y with
      | nil =>
          rw [List.nil_append, matchKeyword_cons,
            foldLetter_ne_of_isBlank hc (hword w List.mem_cons_self)]
          rfl
      | cons d y =>
          rw [List.cons_append, matchKeyword_cons, matchKeyword_cons]
          split
          · exact ih (fun w hw => hword w (List.mem_cons_of_mem _ hw)) y
          · rfl

theorem matchKeyword_self {word : List Char} (hword : ∀ w ∈ word, foldLetter w = w) :
    matchKeyword word word = some [] := by
  induction word with
  | nil => rfl
  | cons w word ih =>
      rw [matchKeyword_cons, hword w List.mem_cons_self, if_pos (beq_self_eq_true w)]
      exact ih fun w hw => hword w (List.mem_cons_of_mem _ hw)

/-- What follows a match of a keyword does not matter to it. -/
theorem matchKeyword_append {word s rest : List Char} (h : matchKeyword word s = some rest)
    (v : List Char) : matchKeyword word (s ++ v) = some (rest ++ v) := by
  induction word generalizing s with
  | nil =>
      cases h
      rfl
  | cons w word ih =>
      cases s with
      | nil => cases h
      | cons c s =>
          rw [matchKeyword_cons] at h
          rw [List.cons_append, matchKeyword_cons]
          split at h
          · next hc => rw [if_pos hc, ih h]
          · cases h

/-- Blanks are matched up to the next character that is none. -/
theorem matchBlanks_append_blank {c : Char} (hc : isBlank c) (y v : List Char) :
    matchBlanks (y ++ c :: v)
      = if y.all isBlank then some (v.dropWhile isBlank)
        else (matchBlanks y).map (· ++ c :: v) := by
  cases y with
  | nil => simp [matchBlanks, hc]
  | cons d y =>
      rw [List.cons_append, matchBlanks, matchBlanks, List.all_cons]
      cases hd : isBlank d with
      | false => rfl
      | true =>
          rw [if_pos rfl, if_pos rfl, Bool.true_and, List.dropWhile_append]
          by_cases hy : y.all isBlank
          · rw [if_pos hy, if_pos (by simpa [List.dropWhile_eq_nil_iff] using hy),
              List.dropWhile_cons_of_pos hc]
          · rw [if_neg hy, if_neg (by simpa [List.dropWhile_eq_nil_iff] using hy)]
            rfl

namespace Phrase

/-! ## Matches across a blank -/

/-- A phrase of two keywords. -/
structure IsPlain (p : Phrase) : Prop where
  first : isKeyword p.first.toList
  second : isKeyword p.second.toList

variable {p : Phrase} (hp : p.IsPlain)

include hp

/-- A match that begins before a blank has its first keyword there. Either the second keyword
    comes right after the blank, or the whole match lies before it. -/
theorem match?_append_blank {c : Char} (hc : isBlank c) (y v : List Char) :
    p.match? (y ++ c :: v) = (matchKeyword p.first.toList y).bind fun rest =>
      if rest.all isBlank then matchKeyword p.second.toList (v.dropWhile isBlank)
      else ((matchBlanks rest).bind (matchKeyword p.second.toList)).map (· ++ c :: v) := by
  rw [match?, matchKeyword_append_blank (fun w hw => (isKeyword_mem hp.first hw).1) hc]
  cases matchKeyword p.first.toList y with
  | none => rfl
  | some rest =>
      rw [Option.map_some, Option.bind_some, Option.bind_some, matchBlanks_append_blank hc]
      split
      · rfl
      · -- the second keyword begins before the blank, so it ends there too
        cases matchBlanks rest with
        | none => rfl
        | some rest =>
            have hsecond := fun w hw => (isKeyword_mem hp.second (w := w) hw).1
            exact matchKeyword_append_blank hsecond hc rest v

theorem match?_append_blank_eq_none {c : Char} (hc : isBlank c) {y v : List Char}
    (hy : p.match? y = none) (hv : matchKeyword p.second.toList (v.dropWhile isBlank) = none) :
    p.match? (y ++ c :: v) = none := by
  rw [match?_append_blank hp hc]
  rw [match?] at hy
  cases hfirst : matchKeyword p.first.toList y with
  | none => rfl
  | some rest =>
      rw [hfirst, Option.bind_some] at hy
      rw [Option.bind_some, hy, hv]
      exact ite_self _

/-- The second keyword is the most that can follow a blank. -/
theorem match?_append_blank_of_second {c : Char} (hc : isBlank c) {y : List Char}
    (h : p.match? (y ++ c :: p.second.toList) = none) (v : List Char) :
    p.match? (y ++ c :: v) = none := by
  have hdrop : p.second.toList.dropWhile isBlank = p.second.toList := by
    cases hs : p.second.toList with
    | nil => rfl
    | cons w word =>
        have hw := (isKeyword_mem hp.second (hs ▸ List.mem_cons_self)).1
        rw [List.dropWhile_cons_of_neg (by simp [hw])]
  rw [match?_append_blank hp hc] at h ⊢
  cases hfirst : matchKeyword p.first.toList y with
  | none => rfl
  | some rest =>
      rw [hfirst, Option.bind_some] at h
      rw [Option.bind_some]
      split at h
      · -- the first keyword is all that stands before the blank, so there was a match
        rw [hdrop, matchKeyword_self fun w hw => (isKeyword_mem hp.second hw).2] at h
        cases h
      · next hrest =>
          rw [if_neg hrest]
          simpa using h

/-- A match stays one, whatever follows the text. -/
theorem match?_append {s rest : List Char} (h : p.match? s = some rest) (v : List Char) :
    p.match? (s ++ v) = some (rest ++ v) := by
  obtain ⟨afterBlanks, h, hsecond⟩ := Option.bind_eq_some_iff.1 h
  obtain ⟨afterFirst, hfirst, hblanks⟩ := Option.bind_eq_some_iff.1 h
  cases afterFirst with
  | nil => cases hblanks
  | cons c tail =>
      rw [matchBlanks] at hblanks
      split at hblanks
      · next hc =>
          obtain rfl := Option.some.inj hblanks
          -- the second keyword follows the blanks, so `v` adds none to them
          have hne : tail.dropWhile isBlank ≠ [] := by
            intro hnil
            rw [hnil] at hsecond
            cases hs : p.second.toList with
            | nil => exact isKeyword_ne_nil hp.second hs
            | cons w word =>
                rw [hs] at hsecond
                cases hsecond
          have hdrop : (tail ++ v).dropWhile isBlank = tail.dropWhile isBlank ++ v := by
            rw [List.dropWhile_append, if_neg (by simpa using hne)]
          rw [match?, matchKeyword_append hfirst, Option.bind_some, List.cons_append, matchBlanks,
            if_pos hc, Option.bind_some, hdrop, matchKeyword_append hsecond]
      · cases hblanks

theorem match?_nil : p.match? [] = none := by
  rw [match?]
  cases hf : p.first.toList with
  | nil => exact absurd hf (isKeyword_ne_nil hp.first)
  | cons w word => rfl

theorem match?_blank {c : Char} (hc : isBlank c) (v : List Char) : p.match? (c :: v) = none := by
  have h := match?_append_blank hp hc [] v
  rw [List.nil_append] at h
  rw [h]
  cases hf : p.first.toList with
  | nil => exact absurd hf (isKeyword_ne_nil hp.first)
  | cons w word => rfl

omit hp

/-! ## Parts of a text without the beginning of a match -/

/-- No match begins in the first part of a text, which the second part follows. -/
def Avoids (p : Phrase) : List Char → List Char → Prop
  | [], _ => True
  | c :: u, v => p.match? (c :: (u ++ v)) = none ∧ p.Avoids u v

instance decideAvoids (p : Phrase) : (u v : List Char) → Decidable (p.Avoids u v)
  | [], _ => .isTrue trivial
  | c :: u, v =>
    have := p.decideAvoids u v
    inferInstanceAs (Decidable (p.match? (c :: (u ++ v)) = none ∧ p.Avoids u v))

/-- No match begins in a part of a text, whatever follows it. -/
def Absent (p : Phrase) (u : List Char) : Prop :=
  ∀ v, p.Avoids u v

/-- Whether there is a match somewhere in a text. -/
def OccursIn (p : Phrase) (s : List Char) : Prop :=
  ∃ before rest, s = before ++ rest ∧ (p.match? rest).isSome

theorem avoids_cons (c : Char) (u v : List Char) :
    p.Avoids (c :: u) v ↔ p.match? (c :: (u ++ v)) = none ∧ p.Avoids u v :=
  Iff.rfl

theorem avoids_append (u u' v : List Char) :
    p.Avoids (u ++ u') v ↔ p.Avoids u (u' ++ v) ∧ p.Avoids u' v := by
  induction u with
  | nil => simp [Avoids]
  | cons c u ih => simp [Avoids, ih, and_assoc]

theorem Absent.append {u u' : List Char} (h : p.Absent u) (h' : p.Absent u') :
    p.Absent (u ++ u') :=
  fun v => (avoids_append u u' v).2 ⟨h _, h' v⟩

theorem Absent.flatMap {α : Type} {l : List α} {f : α → List Char} (h : ∀ a ∈ l, p.Absent (f a)) :
    p.Absent (l.flatMap f) := by
  induction l with
  | nil => exact fun _ => trivial
  | cons a l ih =>
      rw [List.flatMap_cons]
      exact (h a List.mem_cons_self).append (ih fun b hb => h b (List.mem_cons_of_mem a hb))

theorem not_occursIn_tail {c : Char} {u : List Char} (h : ¬ p.OccursIn (c :: u)) :
    ¬ p.OccursIn u := by
  rintro ⟨before, rest, rfl, hmatch⟩
  exact h ⟨c :: before, rest, rfl, hmatch⟩

theorem match?_eq_none_of_not_occursIn {u : List Char} (h : ¬ p.OccursIn u) :
    p.match? u = none := by
  rw [← Option.not_isSome_iff_eq_none]
  exact fun hmatch => h ⟨[], u, rfl, hmatch⟩

include hp

/-- A text without a match is passed over together with a blank after it, unless the second keyword
    follows. -/
theorem avoids_of_not_occursIn {c : Char} (hc : isBlank c) {u v : List Char} (hu : ¬ p.OccursIn u)
    (hv : matchKeyword p.second.toList (v.dropWhile isBlank) = none) : p.Avoids (u ++ [c]) v := by
  induction u with
  | nil => exact ⟨match?_blank hp hc v, trivial⟩
  | cons d u ih =>
      rw [List.cons_append, avoids_cons, List.append_assoc]
      exact ⟨match?_append_blank_eq_none hp hc (match?_eq_none_of_not_occursIn hu) hv,
        ih (not_occursIn_tail hu)⟩

/-- A text that ends in a blank is passed over whatever follows, if it is passed over when the
    second keyword follows. -/
theorem absent_of_second {c : Char} (hc : isBlank c) {u : List Char}
    (h : p.Avoids (u ++ [c]) p.second.toList) : p.Absent (u ++ [c]) := by
  intro v
  induction u with
  | nil => exact ⟨match?_blank hp hc v, trivial⟩
  | cons d u ih =>
      rw [List.cons_append, avoids_cons, List.append_assoc] at h ⊢
      have hmatch : p.match? ((d :: u) ++ c :: v) = none :=
        match?_append_blank_of_second hp hc h.1 v
      exact ⟨hmatch, ih h.2⟩

/-- Nothing begins among blanks. -/
theorem absent_of_blank {u : List Char} (hu : ∀ c ∈ u, isBlank c) : p.Absent u := by
  intro v
  induction u with
  | nil => trivial
  | cons c u ih =>
      exact ⟨match?_blank hp (hu c List.mem_cons_self) _,
        ih fun d hd => hu d (List.mem_cons_of_mem c hd)⟩

omit hp

end Phrase

/-! ## Searching -/

variable {p : Phrase}

/-- A search passes over a part in which no match begins. -/
theorem splitAtMatch_append {u v : List Char} (h : p.Avoids u v) :
    splitAtMatch p.match? (u ++ v)
      = (splitAtMatch p.match? v).map fun found => (u ++ found.1, found.2) := by
  induction u with
  | nil => simp
  | cons c u ih =>
      rw [List.cons_append, splitAtMatch, h.1]
      change (splitAtMatch p.match? (u ++ v)).map _ = _
      rw [ih h.2, Option.map_map]
      rfl

theorem splitAtMatch_of_match {s rest : List Char} (h : p.match? s = some rest) :
    splitAtMatch p.match? s = some ([], rest) := by
  cases s with
  | nil => rw [splitAtMatch, h]; rfl
  | cons c s => rw [splitAtMatch, h]

theorem splitAtMatch_of_absent (hp : p.IsPlain) {u : List Char} (h : p.Absent u) :
    splitAtMatch p.match? u = none := by
  have hsearch := splitAtMatch_append (h [])
  rw [List.append_nil, splitAtMatch, p.match?_nil hp] at hsearch
  exact hsearch

theorem splitAtMatch_isSome_iff {s : List Char} :
    (splitAtMatch p.match? s).isSome ↔ p.OccursIn s := by
  induction s with
  | nil =>
      rw [splitAtMatch, Option.isSome_map]
      constructor
      · exact fun h => ⟨[], [], rfl, h⟩
      · rintro ⟨before, rest, hs, h⟩
        rwa [(List.append_eq_nil_iff.1 hs.symm).2] at h
  | cons c s ih =>
      rw [splitAtMatch]
      cases h : p.match? (c :: s) with
      | some rest => exact ⟨fun _ => ⟨[], c :: s, rfl, by rw [h]; rfl⟩, fun _ => rfl⟩
      | none =>
          change ((splitAtMatch p.match? s).map _).isSome ↔ _
          rw [Option.isSome_map, ih]
          constructor
          · rintro ⟨before, rest, rfl, hmatch⟩
            exact ⟨c :: before, rest, rfl, hmatch⟩
          · rintro ⟨_ | ⟨d, before⟩, rest, hs, hmatch⟩
            · rw [List.nil_append] at hs
              rw [← hs, h] at hmatch
              cases hmatch
            · exact ⟨before, rest, (List.cons.inj hs).2, hmatch⟩

instance (s : List Char) : Decidable (p.OccursIn s) :=
  decidable_of_iff _ splitAtMatch_isSome_iff

/-! ## Occurrences in parts of a text -/

namespace Phrase

variable (hp : p.IsPlain)

include hp

/-- What occurs in a part of a text occurs in the text. -/
theorem OccursIn.mono {s t : List Char} (h : p.OccursIn s) (hst : s <:+: t) : p.OccursIn t := by
  obtain ⟨before, rest, rfl, hmatch⟩ := h
  obtain ⟨u, v, rfl⟩ := hst
  obtain ⟨left, hleft⟩ := Option.isSome_iff_exists.1 hmatch
  refine ⟨u ++ before, rest ++ v, by simp, ?_⟩
  rw [match?_append hp hleft]
  rfl

/-- What is passed over, whatever follows, holds no match. -/
theorem Absent.not_occursIn {u : List Char} (h : p.Absent u) : ¬ p.OccursIn u := by
  rw [← splitAtMatch_isSome_iff, splitAtMatch_of_absent hp h]
  exact Bool.false_ne_true

/-- A blank at the end of a text completes no match. -/
theorem occursIn_of_append_blank {c : Char} (hc : isBlank c) {s : List Char}
    (h : p.OccursIn (s ++ [c])) : p.OccursIn s := by
  by_contra hs
  have hnone : matchKeyword p.second.toList (List.dropWhile isBlank []) = none := by
    cases hw : p.second.toList with
    | nil => exact absurd hw (isKeyword_ne_nil hp.second)
    | cons w word => rfl
  have hsearch := splitAtMatch_append (avoids_of_not_occursIn hp hc hs hnone)
  rw [List.append_nil, splitAtMatch, match?_nil hp] at hsearch
  rw [← splitAtMatch_isSome_iff, hsearch] at h
  cases h

end Phrase

end AgentScript.Text
