import AgentScript.Proofs.Script.Printing
import AgentScript.Proofs.Text.Offset

set_option autoImplicit false

/-! # When a script has an override block of its own

An override block is found just when, in the text without the blocks before and after the prompt,
its opening delimiter is seen and its closing one after it
(`Blocks.ofText_overridePrompt_isSome_iff`). Delimiters that stand outside of these blocks are
always seen. But a block that stands between `start` and `overridePrompt` leaves nothing but blanks
there, so a delimiter may also be seen where none stands (`Blocks.ofText_overridePrompt_madeUp`). -/

namespace AgentScript.Script

open Text

/-! ## The place of a block -/

/-- Whether an offset lies in a block. -/
def Region.covers (r : Region) (i : Nat) : Bool :=
  r.start ≤ i && i < r.stop

/-- No opening delimiter begins within another one. -/
theorem opening_disjoint {n : BlockName} {text : List Char} {i j i' j' : Nat}
    (h : n.opening.StandsAt text i j) (h' : n.opening.StandsAt text i' j') (hi : i < i') :
    j ≤ i' := by
  have hfirst : n.opening.first.toList = 's' :: "tart".toList := by cases n <;> rfl
  have hsecond : 's' ∉ n.opening.second.toList := by cases n <;> decide
  exact Phrase.StandsAt.disjoint (isPlain_opening n) hfirst (by decide) hsecond h h' hi

/-- A block reaches from the first opening delimiter of its name up to the end of the next closing
    one. -/
theorem findBlock_eq_some {n : BlockName} {text : List Char} {r : Region}
    (h : findBlock n text = some r) :
    ∃ j k, n.opening.StandsAt text r.start j ∧ j ≤ k ∧ n.closing.StandsAt text k r.stop
      ∧ ∀ i < r.start, n.opening.match? (text.drop i) = none := by
  obtain ⟨⟨before, inner⟩, hopening, h⟩ := Option.bind_eq_some_iff.1 h
  obtain ⟨⟨interior, after⟩, hclosing, h⟩ := Option.bind_eq_some_iff.1 h
  obtain rfl := Option.some.inj h
  obtain ⟨hmatch, -, hfirst⟩ := splitAtMatch_eq_some hopening
  obtain ⟨j, hstart, rfl⟩ := (Phrase.match?_drop_eq_some_iff (isPlain_opening n)).1 hmatch
  obtain ⟨hmatch, -, -⟩ := splitAtMatch_eq_some hclosing
  rw [List.drop_drop] at hmatch
  obtain ⟨l, hstop, hafter⟩ := (Phrase.match?_drop_eq_some_iff (isPlain_closing n)).1 hmatch
  have hl := Phrase.StandsAt.le_length (isPlain_closing n) hstop
  have hlength : text.length - after.length = l := by
    rw [← hafter, List.length_drop]
    omega
  exact ⟨j, j + interior.length, hstart, Nat.le_add_right _ _, hlength.symm ▸ hstop, hfirst⟩

/-- There is a block just when somewhere in the text its opening delimiter stands, and its closing
    one after it. -/
theorem findBlock_isSome_iff {n : BlockName} {text : List Char} :
    (findBlock n text).isSome ↔ ∃ i j k l, n.opening.StandsAt text i j ∧ j ≤ k
      ∧ n.closing.StandsAt text k l := by
  constructor
  · intro h
    obtain ⟨r, hr⟩ := Option.isSome_iff_exists.1 h
    obtain ⟨j, k, hstart, hjk, hstop, -⟩ := findBlock_eq_some hr
    exact ⟨r.start, j, k, r.stop, hstart, hjk, hstop⟩
  · rintro ⟨i, j, k, l, hstart, hjk, hstop⟩
    have hplain := isPlain_opening n
    have hread := (Phrase.match?_drop_eq_some_iff hplain).2 ⟨j, hstart, rfl⟩
    have hsome : (splitAtMatch n.opening.match? text).isSome :=
      splitAtMatch_isSome_iff.2 ⟨text.take i, text.drop i, (List.take_append_drop i text).symm,
        by rw [hread]; rfl⟩
    obtain ⟨⟨before, inner⟩, hopening⟩ := Option.isSome_iff_exists.1 hsome
    obtain ⟨hmatch, -, hfirst⟩ := splitAtMatch_eq_some hopening
    obtain ⟨j', hstart', rfl⟩ := (Phrase.match?_drop_eq_some_iff hplain).1 hmatch
    -- the search stops at `i` at the latest, so what it leaves still has the closing delimiter
    have hle : j' ≤ k := by
      rcases Nat.lt_trichotomy before.length i with hlt | heq | hgt
      · have hdisjoint := opening_disjoint hstart' hstart hlt
        have hlt := hstart.lt hplain
        omega
      · rw [heq, hread] at hmatch
        have hlength := congrArg List.length (Option.some.inj hmatch)
        rw [List.length_drop, List.length_drop] at hlength
        have hj := hstart.le_length hplain
        have hj' := hstart'.le_length hplain
        omega
      · rw [hfirst i hgt] at hread
        cases hread
    have hclosing : (splitAtMatch n.closing.match? (text.drop j')).isSome := by
      have hread := (Phrase.match?_drop_eq_some_iff (isPlain_closing n)).2 ⟨l, hstop, rfl⟩
      refine splitAtMatch_isSome_iff.2 ⟨(text.drop j').take (k - j'), text.drop k, ?_, ?_⟩
      · rw [← Nat.add_sub_cancel' hle, ← List.drop_drop, Nat.add_sub_cancel_left,
          List.take_append_drop]
      · rw [hread]
        rfl
    obtain ⟨found, hfound⟩ := Option.isSome_iff_exists.1 hclosing
    rw [findBlock, hopening]
    change (splitAtMatch n.closing.match? (text.drop j') >>= _).isSome
    rw [hfound]
    rfl

/-! ## What is hidden when an override block is looked for -/

/-- Whether an offset lies in the block before the prompt or in the one after it. -/
def isCovered (text : List Char) (i : Nat) : Bool :=
  [BlockName.beforePrompt, .afterPrompt].any fun n => (findBlock n text).any (·.covers i)

theorem hide_hide (hidden hidden' : Nat → Bool) (text : List Char) :
    hide hidden' (hide hidden text) = hide (fun i => hidden i || hidden' i) text := by
  refine List.ext_getElem? fun i => ?_
  simp only [getElem?_hide, Option.map_map]
  refine congrArg (Option.map · _) (funext fun c => ?_)
  cases hidden i <;> cases hidden' i <;> by_cases hc : c = '\n' <;> simp [hc]

theorem blankOut?_eq_hide (r : Option Region) (text : List Char) :
    blankOut? r text = hide (fun i => r.any (·.covers i)) text := by
  cases r with
  | none =>
      refine List.ext_getElem? fun i => ?_
      simp [blankOut?, getElem?_hide]
  | some r => rfl

/-- An override block is looked for where the blocks that may hold one are hidden. -/
theorem Blocks.ofText_overridePrompt (source : String) :
    (ofText source).overridePrompt
      = (findBlock .overridePrompt (hide (isCovered (joinLineEnds source.toList))
          (joinLineEnds source.toList))).map Region.body := by
  change (findBlock .overridePrompt (blankOut? _ (blankOut? _ _))).map Region.body = _
  have hcovered (text : List Char) : isCovered text
      = fun i => (findBlock .beforePrompt text).any (·.covers i)
        || (findBlock .afterPrompt text).any (·.covers i) := by
    funext i
    simp [isCovered]
  rw [blankOut?_eq_hide, blankOut?_eq_hide, hide_hide, hcovered]

/-! ## Override blocks -/

/-- An opening delimiter of an override block and a closing one after it stand in a text, outside of
    the blocks before and after the prompt. -/
def HasOverride (text : List Char) : Prop :=
  ∃ i j k l, BlockName.overridePrompt.opening.StandsAt text i j ∧ j ≤ k
    ∧ BlockName.overridePrompt.closing.StandsAt text k l
    ∧ ∀ m, isCovered text m → ¬ (i ≤ m ∧ m < j) ∧ ¬ (k ≤ m ∧ m < l)

/-- An opening delimiter of an override block and a closing one after it are seen in a text once the
    blocks before and after the prompt are hidden. -/
def ShowsOverride (text : List Char) : Prop :=
  ∃ i j k l, BlockName.overridePrompt.opening.SeenAt (isCovered text) text i j ∧ j ≤ k
    ∧ BlockName.overridePrompt.closing.SeenAt (isCovered text) text k l

/-- A delimiter of an override block is seen in a text with something hidden between its
    keywords. -/
def MakesUpOverride (text : List Char) : Prop :=
  ∃ i j m, (BlockName.overridePrompt.opening.SeenAt (isCovered text) text i j
      ∨ BlockName.overridePrompt.closing.SeenAt (isCovered text) text i j)
    ∧ i ≤ m ∧ m < j ∧ isCovered text m

/-- A script has an override block just when the delimiters of one are seen around the blocks before
    and after the prompt. It is enough that they stand there, and that is the only way unless one of
    these blocks parts the keywords of a delimiter. -/
theorem Blocks.ofText_overridePrompt_isSome_iff (source : String) :
    ((ofText source).overridePrompt.isSome ↔ ShowsOverride (joinLineEnds source.toList))
      ∧ (HasOverride (joinLineEnds source.toList) → (ofText source).overridePrompt.isSome)
      ∧ ((ofText source).overridePrompt.isSome → ¬ MakesUpOverride (joinLineEnds source.toList) →
        HasOverride (joinLineEnds source.toList)) := by
  rw [ofText_overridePrompt, Option.isSome_map]
  generalize joinLineEnds source.toList = text
  have hshows : (findBlock .overridePrompt (hide (isCovered text) text)).isSome
      ↔ ShowsOverride text := by
    rw [findBlock_isSome_iff]
    simp only [Phrase.standsAt_hide_iff (isPlain_opening _),
      Phrase.standsAt_hide_iff (isPlain_closing _), ShowsOverride]
  refine ⟨hshows, fun h => hshows.2 ?_, fun h hnone => ?_⟩
  · obtain ⟨i, j, k, l, hopening, hjk, hclosing, hsight⟩ := h
    refine ⟨i, j, k, l, hopening.seenAt fun m hi hj => ?_, hjk, hclosing.seenAt fun m hk hl => ?_⟩
    · exact Bool.eq_false_iff.2 fun hm => (hsight m hm).1 ⟨hi, hj⟩
    · exact Bool.eq_false_iff.2 fun hm => (hsight m hm).2 ⟨hk, hl⟩
  · obtain ⟨i, j, k, l, hopening, hjk, hclosing⟩ := hshows.1 h
    have hopened : ∀ m, i ≤ m → m < j → isCovered text m = false := fun m hi hj =>
      Bool.eq_false_iff.2 fun hm => hnone ⟨i, j, m, .inl hopening, hi, hj, hm⟩
    have hclosed : ∀ m, k ≤ m → m < l → isCovered text m = false := fun m hk hl =>
      Bool.eq_false_iff.2 fun hm => hnone ⟨k, l, m, .inr hclosing, hk, hl, hm⟩
    refine ⟨i, j, k, l, hopening.standsAt hopened, hjk, hclosing.standsAt hclosed, fun m hm => ?_⟩
    constructor
    · rintro ⟨hi, hj⟩
      rw [hopened m hi hj] at hm
      cases hm
    · rintro ⟨hk, hl⟩
      rw [hclosed m hk hl] at hm
      cases hm

/-- A block before the prompt stands between the keywords of what is then taken for the delimiter of
    an override block. -/
theorem Blocks.ofText_overridePrompt_madeUp :
    ¬ ∀ source, (ofText source).overridePrompt.isSome
      ↔ HasOverride (joinLineEnds source.toList) := by
  intro h
  have hsome : (ofText ("start start beforePrompt x end beforePrompt overridePrompt y " ++
      "end overridePrompt")).overridePrompt.isSome := by decide +kernel
  obtain ⟨i, j, k, l, hopening, -⟩ := (h _).1 hsome
  have hread := (Phrase.match?_drop_eq_some_iff (isPlain_opening _)).2 ⟨j, hopening, rfl⟩
  have habsent : ¬ BlockName.overridePrompt.opening.OccursIn (joinLineEnds
      ("start start beforePrompt x end beforePrompt overridePrompt y " ++
        "end overridePrompt").toList) := by decide +kernel
  exact habsent ⟨_, _, (List.take_append_drop i _).symm, by rw [hread]; rfl⟩

end AgentScript.Script
