import AgentScript.Proofs.Text.Phrase

set_option autoImplicit false

/-! # Phrases at offsets

Where in a text a keyword or a phrase stands, by offsets. Reading from an offset finds a phrase just
when it stands there (`Phrase.match?_drop_eq_some_iff`). When some characters of a text are hidden
behind spaces, a phrase stands in what is left just when both its keywords are in sight and nothing
but blanks and hidden characters are between them (`Phrase.standsAt_hide_iff`). -/

namespace AgentScript.Text

/-! ## Keywords -/

/-- A keyword stands in a text from offset `i` up to offset `j`. -/
def StandsAt (word text : List Char) (i j : Nat) : Prop :=
  j = i + word.length ∧ ∀ k < word.length, (text[i + k]?).map foldLetter = word[k]?

theorem standsAt_cons {w : Char} {word text : List Char} {i j : Nat} :
    StandsAt (w :: word) text i j
      ↔ (text[i]?).map foldLetter = some w ∧ StandsAt word text (i + 1) j := by
  have hshift (k : Nat) : i + 1 + k = i + (k + 1) := by omega
  constructor
  · rintro ⟨hj, h⟩
    refine ⟨h 0 (by simp), by rw [hj, List.length_cons]; omega, fun k hk => ?_⟩
    rw [hshift, h (k + 1) (by simpa using hk), List.getElem?_cons_succ]
  · rintro ⟨hw, hj, h⟩
    refine ⟨by rw [hj, List.length_cons]; omega, fun k hk => ?_⟩
    cases k with
    | zero => exact hw
    | succ k => rw [← hshift, h k (by simpa using hk), List.getElem?_cons_succ]

/-- Reading a keyword from an offset succeeds just when it stands there. -/
theorem matchKeyword_drop_eq_some_iff {word text rest : List Char} {i : Nat} :
    matchKeyword word (text.drop i) = some rest
      ↔ ∃ j, StandsAt word text i j ∧ text.drop j = rest := by
  induction word generalizing i with
  | nil =>
      constructor
      · exact fun h => ⟨i, ⟨rfl, fun k hk => absurd hk (by simp)⟩, Option.some.inj h⟩
      · rintro ⟨j, ⟨rfl, -⟩, rfl⟩
        rfl
  | cons w word ih =>
      cases hi : text[i]? with
      | none =>
          have hdrop : text.drop i = [] := List.drop_eq_nil_iff.2 (List.getElem?_eq_none_iff.1 hi)
          rw [hdrop]
          constructor
          · exact fun h => nomatch h
          · rintro ⟨j, h, -⟩
            have hw := (standsAt_cons.1 h).1
            rw [hi] at hw
            cases hw
      | some c =>
          obtain ⟨hlt, rfl⟩ := List.getElem?_eq_some_iff.1 hi
          rw [List.drop_eq_getElem_cons hlt, matchKeyword_cons]
          simp only [standsAt_cons, hi, Option.map_some, Option.some.injEq]
          split
          · next hw => simp only [beq_iff_eq.1 hw, true_and, ih]
          · next hw =>
              constructor
              · exact fun h => nomatch h
              · rintro ⟨j, ⟨h, -⟩, -⟩
                exact absurd (beq_iff_eq.2 h) hw

theorem StandsAt.getElem? {word text : List Char} {i j : Nat} (h : StandsAt word text i j) {m : Nat}
    (hi : i ≤ m) (hj : m < j) : ∃ w ∈ word, (text[m]?).map foldLetter = some w := by
  have hlt : m - i < word.length := by
    have := h.1
    omega
  refine ⟨word[m - i], List.getElem_mem hlt, ?_⟩
  rw [← List.getElem?_eq_getElem hlt, ← h.2 _ hlt, Nat.add_sub_cancel' hi]

/-- A keyword has no blanks in it. -/
theorem StandsAt.not_isBlank {word text : List Char} (hword : isKeyword word) {i j : Nat}
    (h : StandsAt word text i j) {m : Nat} (hi : i ≤ m) (hj : m < j) :
    (text[m]?).any isBlank = false := by
  obtain ⟨w, hw, hm⟩ := h.getElem? hi hj
  obtain ⟨c, hc, rfl⟩ := Option.map_eq_some_iff.1 hm
  rw [hc, Option.any_some]
  by_contra hblank
  rw [Bool.not_eq_false] at hblank
  rw [foldLetter_of_isBlank hblank] at hw
  rw [(isKeyword_mem hword hw).1] at hblank
  cases hblank

/-! ## Blanks -/

theorem getElem?_of_any {p : Char → Bool} {text : List Char} {m : Nat} (h : (text[m]?).any p) :
    ∃ c, text[m]? = some c ∧ p c := by
  cases hc : text[m]? with
  | none => simp [hc] at h
  | some c => exact ⟨c, rfl, by simpa [hc] using h⟩

/-- Dropping what satisfies `p` goes on to the first offset where something does not. -/
theorem dropWhile_drop {p : Char → Bool} {text : List Char} {a b : Nat} (hab : a ≤ b)
    (h : ∀ m, a ≤ m → m < b → (text[m]?).any p) (hb : (text[b]?).any p = false) :
    (text.drop a).dropWhile p = text.drop b := by
  obtain ⟨n, rfl⟩ := Nat.exists_eq_add_of_le hab
  induction n generalizing a with
  | zero =>
      rw [Nat.add_zero] at hb ⊢
      cases hs : text.drop a with
      | nil => rfl
      | cons c rest =>
          have hget : text[a]? = some c := by rw [← List.head?_drop, hs, List.head?_cons]
          have hp : p c = false := by simpa [hget] using hb
          rw [List.dropWhile_cons_of_neg (by simp [hp])]
  | succ n ih =>
      obtain ⟨c, hget, hp⟩ := getElem?_of_any (h a (Nat.le_refl a) (by omega))
      obtain ⟨hlt, rfl⟩ := List.getElem?_eq_some_iff.1 hget
      rw [List.drop_eq_getElem_cons hlt, List.dropWhile_cons_of_pos hp,
        ih (by omega) (fun m ha hm => h m (by omega) (by omega)) (by rwa [Nat.add_right_comm]),
        Nat.add_right_comm, Nat.add_assoc]

theorem exists_dropWhile_drop (p : Char → Bool) (text : List Char) (a : Nat) :
    ∃ b, a ≤ b ∧ (∀ m, a ≤ m → m < b → (text[m]?).any p)
      ∧ (text.drop a).dropWhile p = text.drop b := by
  generalize hs : text.drop a = s
  induction s generalizing a with
  | nil => exact ⟨a, Nat.le_refl a, fun m ha hm => absurd hm (by omega), hs.symm⟩
  | cons c rest ih =>
      have hget : text[a]? = some c := by rw [← List.head?_drop, hs, List.head?_cons]
      have hrest : text.drop (a + 1) = rest := by rw [← List.tail_drop, hs, List.tail_cons]
      by_cases hp : p c
      · obtain ⟨b, hab, hblank, hdrop⟩ := ih (a + 1) hrest
        refine ⟨b, by omega, fun m ha hm => ?_, by rw [List.dropWhile_cons_of_pos hp, hdrop]⟩
        rcases Nat.eq_or_lt_of_le ha with rfl | ha
        · simpa [hget] using hp
        · exact hblank m ha hm
      · exact ⟨a, Nat.le_refl a, fun m ha hm => absurd hm (by omega),
          by rw [List.dropWhile_cons_of_neg hp, hs]⟩

theorem matchBlanks_drop {text : List Char} {a b : Nat} (hab : a < b)
    (h : ∀ m, a ≤ m → m < b → (text[m]?).any isBlank) (hb : (text[b]?).any isBlank = false) :
    matchBlanks (text.drop a) = some (text.drop b) := by
  obtain ⟨c, hget, hc⟩ := getElem?_of_any (h a (Nat.le_refl a) hab)
  obtain ⟨hlt, rfl⟩ := List.getElem?_eq_some_iff.1 hget
  rw [List.drop_eq_getElem_cons hlt, matchBlanks, if_pos hc,
    dropWhile_drop hab (fun m ha hm => h m (by omega) hm) hb]

theorem exists_of_matchBlanks_drop {text rest : List Char} {a : Nat}
    (h : matchBlanks (text.drop a) = some rest) :
    ∃ b, a < b ∧ (∀ m, a ≤ m → m < b → (text[m]?).any isBlank) ∧ text.drop b = rest := by
  cases hs : text.drop a with
  | nil =>
      rw [hs] at h
      cases h
  | cons c tail =>
      have hget : text[a]? = some c := by rw [← List.head?_drop, hs, List.head?_cons]
      have htail : text.drop (a + 1) = tail := by rw [← List.tail_drop, hs, List.tail_cons]
      rw [hs, matchBlanks] at h
      split at h
      · next hc =>
          obtain ⟨b, hab, hblank, hdrop⟩ := exists_dropWhile_drop isBlank text (a + 1)
          rw [htail, Option.some.inj h] at hdrop
          refine ⟨b, hab, fun m ha hm => ?_, hdrop.symm⟩
          rcases Nat.eq_or_lt_of_le ha with rfl | ha
          · simpa [hget] using hc
          · exact hblank m ha hm
      · cases h

/-! ## Phrases -/

namespace Phrase

/-- A phrase stands in a text from offset `i` up to offset `j`: its two keywords with blanks between
    them. -/
def StandsAt (p : Phrase) (text : List Char) (i j : Nat) : Prop :=
  ∃ a b, Text.StandsAt p.first.toList text i a ∧ a < b
    ∧ (∀ m, a ≤ m → m < b → (text[m]?).any isBlank) ∧ Text.StandsAt p.second.toList text b j

variable {p : Phrase} (hp : p.IsPlain)

include hp

theorem lt_of_second {text : List Char} {b j : Nat}
    (h : Text.StandsAt p.second.toList text b j) : b < j := by
  have hpos := List.length_pos_iff.2 (isKeyword_ne_nil hp.second)
  have hj := h.1
  omega

/-- Reading a phrase from an offset succeeds just when it stands there. -/
theorem match?_drop_eq_some_iff {text rest : List Char} {i : Nat} :
    p.match? (text.drop i) = some rest ↔ ∃ j, p.StandsAt text i j ∧ text.drop j = rest := by
  constructor
  · intro h
    obtain ⟨afterBlanks, h, hreadSecond⟩ := Option.bind_eq_some_iff.1 h
    obtain ⟨afterFirst, hreadFirst, hreadBlanks⟩ := Option.bind_eq_some_iff.1 h
    obtain ⟨a, hfirst, rfl⟩ := matchKeyword_drop_eq_some_iff.1 hreadFirst
    obtain ⟨b, hab, hblanks, rfl⟩ := exists_of_matchBlanks_drop hreadBlanks
    obtain ⟨j, hsecond, rfl⟩ := matchKeyword_drop_eq_some_iff.1 hreadSecond
    exact ⟨j, ⟨a, b, hfirst, hab, hblanks, hsecond⟩, rfl⟩
  · rintro ⟨j, ⟨a, b, hfirst, hab, hblanks, hsecond⟩, rfl⟩
    have hb := hsecond.not_isBlank hp.second (Nat.le_refl b) (lt_of_second hp hsecond)
    rw [match?, matchKeyword_drop_eq_some_iff.2 ⟨a, hfirst, rfl⟩, Option.bind_some,
      matchBlanks_drop hab hblanks hb, Option.bind_some]
    exact matchKeyword_drop_eq_some_iff.2 ⟨j, hsecond, rfl⟩

theorem StandsAt.lt {text : List Char} {i j : Nat} (h : p.StandsAt text i j) : i < j := by
  obtain ⟨a, b, hfirst, hab, -, hsecond⟩ := h
  have ha := hfirst.1
  have hbj := lt_of_second hp hsecond
  omega

theorem StandsAt.le_length {text : List Char} {i j : Nat} (h : p.StandsAt text i j) :
    j ≤ text.length := by
  obtain ⟨a, b, -, -, -, hsecond⟩ := h
  have hbj := lt_of_second hp hsecond
  obtain ⟨w, -, hw⟩ := hsecond.getElem? (m := j - 1) (by omega) (by omega)
  obtain ⟨c, hc, -⟩ := Option.map_eq_some_iff.1 hw
  have hlt := (List.getElem?_eq_some_iff.1 hc).1
  omega

/-- Two phrases do not overlap, if the first letter of the phrase is nowhere else in it. -/
theorem StandsAt.disjoint {w : Char} {word : List Char} (hw : p.first.toList = w :: word)
    (hfirst : w ∉ word) (hsecond : w ∉ p.second.toList) {text : List Char} {i j i' j' : Nat}
    (h : p.StandsAt text i j) (h' : p.StandsAt text i' j') (hi : i < i') : j ≤ i' := by
  obtain ⟨a', b', hfirst', -⟩ := h'
  rw [hw] at hfirst'
  have hletter := (standsAt_cons.1 hfirst').1
  obtain ⟨a, b, hfirst, -, hblanks, hsecond⟩ := h
  rw [hw] at hfirst
  by_contra hj
  rw [Nat.not_le] at hj
  have hother {word : List Char} {a b : Nat} (h : Text.StandsAt word text a b) (ha : a ≤ i')
      (hb : i' < b) : w ∈ word := by
    obtain ⟨c, hc, heq⟩ := h.getElem? ha hb
    rw [hletter] at heq
    exact Option.some.inj heq ▸ hc
  by_cases ha : i' < a
  · exact absurd (hother (standsAt_cons.1 hfirst).2 hi ha) ‹_›
  · by_cases hb : i' < b
    · -- the letter is no blank
      obtain ⟨c, hc, hblank⟩ := getElem?_of_any (hblanks i' (Nat.not_lt.1 ha) hb)
      rw [hc, Option.map_some, foldLetter_of_isBlank hblank] at hletter
      have hplain := (isKeyword_mem hp.first (hw ▸ List.mem_cons_self : w ∈ p.first.toList)).1
      rw [Option.some.inj hletter, hplain] at hblank
      cases hblank
    · exact absurd (hother hsecond (Nat.not_lt.1 hb) hj) ‹_›

end Phrase

/-! ## Searching -/

/-- A search finds the first place where its matcher succeeds. -/
theorem splitAtMatch_eq_some {m : Matcher} {s before rest : List Char}
    (h : splitAtMatch m s = some (before, rest)) :
    m (s.drop before.length) = some rest ∧ before = s.take before.length
      ∧ ∀ i < before.length, m (s.drop i) = none := by
  induction s generalizing before with
  | nil =>
      obtain ⟨rest', hm, heq⟩ := Option.map_eq_some_iff.1 h
      obtain ⟨rfl, rfl⟩ := Prod.mk.inj heq
      exact ⟨hm, rfl, fun i hi => absurd hi (by simp)⟩
  | cons c s ih =>
      rw [splitAtMatch] at h
      split at h
      · next hm =>
          obtain ⟨rfl, rfl⟩ := Prod.mk.inj (Option.some.inj h)
          exact ⟨hm, rfl, fun i hi => absurd hi (by simp)⟩
      · next hm =>
          obtain ⟨⟨before', rest'⟩, hs, heq⟩ := Option.map_eq_some_iff.1 h
          obtain ⟨rfl, rfl⟩ := Prod.mk.inj heq
          obtain ⟨hmatch, htake, hfirst⟩ := ih hs
          refine ⟨hmatch, by rw [List.length_cons, List.take_succ_cons, ← htake], fun i hi => ?_⟩
          cases i with
          | zero => exact hm
          | succ i => exact hfirst i (by simpa using hi)

/-! ## Hidden characters -/

/-- The text with the hidden characters, newlines apart, turned into spaces. -/
def hide (hidden : Nat → Bool) (text : List Char) : List Char :=
  text.mapIdx fun i c => if hidden i && c != '\n' then ' ' else c

/-- A phrase as it is seen in a text of which some characters are hidden: both its keywords are in
    sight, and only blanks and hidden characters are between them. -/
def Phrase.SeenAt (p : Phrase) (hidden : Nat → Bool) (text : List Char) (i j : Nat) : Prop :=
  ∃ a b, (Text.StandsAt p.first.toList text i a ∧ ∀ m, i ≤ m → m < a → hidden m = false)
    ∧ a < b ∧ (∀ m, a ≤ m → m < b → hidden m ∨ (text[m]?).any isBlank)
    ∧ Text.StandsAt p.second.toList text b j ∧ ∀ m, b ≤ m → m < j → hidden m = false

variable {hidden : Nat → Bool} {text : List Char}

theorem getElem?_hide (m : Nat) :
    (hide hidden text)[m]? = (text[m]?).map fun c => if hidden m && c != '\n' then ' ' else c :=
  List.getElem?_mapIdx

theorem getElem?_hide_of_not_hidden {m : Nat} (h : hidden m = false) :
    (hide hidden text)[m]? = text[m]? := by
  simp [getElem?_hide, h]

/-- A hidden character is a blank. -/
theorem any_isBlank_hide (m : Nat) :
    ((hide hidden text)[m]?).any isBlank = (text[m]?).any fun c => hidden m || isBlank c := by
  rw [getElem?_hide, Option.any_map]
  congr 1
  funext c
  cases hidden m with
  | false => rfl
  | true =>
      by_cases hc : c = '\n'
      · subst hc
        decide
      · have hne : (c != '\n') = true := bne_iff_ne.2 hc
        simp only [hne, Bool.and_self, if_true, Bool.true_or]
        decide

/-- A keyword stands in what is left of a text just when it stands in the text, in sight. -/
theorem standsAt_hide_iff {word : List Char} (hword : isKeyword word) {i j : Nat} :
    StandsAt word (hide hidden text) i j
      ↔ StandsAt word text i j ∧ ∀ m, i ≤ m → m < j → hidden m = false := by
  have htransfer (hsight : ∀ m, i ≤ m → m < j → hidden m = false) :
      StandsAt word (hide hidden text) i j ↔ StandsAt word text i j := by
    refine and_congr_right fun hj => forall₂_congr fun k hk => ?_
    rw [getElem?_hide_of_not_hidden (hsight (i + k) (by omega) (by omega))]
  constructor
  · intro h
    have hsight : ∀ m, i ≤ m → m < j → hidden m = false := by
      intro m hi hj
      obtain ⟨w, -, hm⟩ := h.getElem? hi hj
      have hblank := h.not_isBlank hword hi hj
      obtain ⟨c, hc, -⟩ := Option.map_eq_some_iff.1 hm
      rw [getElem?_hide, Option.map_eq_some_iff] at hc
      obtain ⟨d, hd, -⟩ := hc
      rw [any_isBlank_hide, hd, Option.any_some, Bool.or_eq_false_iff] at hblank
      exact hblank.1
    exact ⟨(htransfer hsight).1 h, hsight⟩
  · exact fun ⟨h, hsight⟩ => (htransfer hsight).2 h

namespace Phrase

variable {p : Phrase}

/-- A phrase stands in what is left of a text just when it is seen there. -/
theorem standsAt_hide_iff (hp : p.IsPlain) {i j : Nat} :
    p.StandsAt (hide hidden text) i j ↔ p.SeenAt hidden text i j := by
  refine exists₂_congr fun a b => ?_
  rw [Text.standsAt_hide_iff hp.first, Text.standsAt_hide_iff hp.second]
  refine and_congr_right fun _ => and_congr_right fun _ => and_congr_left fun hsecond => ?_
  -- the second keyword is not beyond the end of the text, so neither is what comes before it
  obtain ⟨w, -, hw⟩ := hsecond.1.getElem? (Nat.le_refl b) (lt_of_second hp hsecond.1)
  obtain ⟨c, hc, -⟩ := Option.map_eq_some_iff.1 hw
  have hlt := (List.getElem?_eq_some_iff.1 hc).1
  refine forall₃_congr fun m _ hm => ?_
  rw [any_isBlank_hide, List.getElem?_eq_getElem (Nat.lt_trans hm hlt)]
  simp

/-- A phrase that stands in sight is seen. -/
theorem StandsAt.seenAt {i j : Nat} (h : p.StandsAt text i j)
    (hsight : ∀ m, i ≤ m → m < j → hidden m = false) : p.SeenAt hidden text i j := by
  obtain ⟨a, b, hfirst, hab, hblanks, hsecond⟩ := h
  have ha := hfirst.1
  have hj := hsecond.1
  exact ⟨a, b, ⟨hfirst, fun m hi hm => hsight m hi (by omega)⟩, hab,
    fun m hm hb => .inr (hblanks m hm hb), hsecond, fun m hb hm => hsight m (by omega) hm⟩

/-- A phrase that is seen with nothing hidden in it stands there. -/
theorem SeenAt.standsAt {i j : Nat} (h : p.SeenAt hidden text i j)
    (hsight : ∀ m, i ≤ m → m < j → hidden m = false) : p.StandsAt text i j := by
  obtain ⟨a, b, ⟨hfirst, -⟩, hab, hblanks, hsecond, -⟩ := h
  have ha := hfirst.1
  have hj := hsecond.1
  refine ⟨a, b, hfirst, hab, fun m hm hb => (hblanks m hm hb).resolve_left ?_, hsecond⟩
  rw [hsight m (by omega) (by omega)]
  decide

end Phrase

end AgentScript.Text
