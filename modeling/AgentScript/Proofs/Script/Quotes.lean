import AgentScript.Proofs.Script.Scanning
import AgentScript.Proofs.Text.Blank
import AgentScript.Proofs.Text.Search

set_option autoImplicit false

/-! # Arguments between quotes

An argument of its own may be enclosed in quotes of either style, which are taken off again
(`QuoteStyle.stripQuotes_enclose`); single ones are taken for triple ones just in case there are two
more at either end (`QuoteStyle.stripQuotes_enclose_plain_iff`). It is also scanned for named
parameters. Between single quotes there are none to be found
(`QuoteStyle.namedParameters_enclose_plain`); between triple ones, only such as can be read within
single quotes (`QuoteStyle.read_triple_enclose`). -/

namespace AgentScript.Script

open Text (isBlank)

/-- Just the quotes at both ends are taken off. -/
theorem between?_append (quote s : List Char) :
    between? quote (quote ++ (s ++ quote)) = some s := by
  have hlength : 2 * quote.length ≤ (quote ++ (s ++ quote)).length := by
    simp only [List.length_append]
    omega
  have hleft : quote.isPrefixOf (quote ++ (s ++ quote)) :=
    List.isPrefixOf_iff_prefix.2 (List.prefix_append _ _)
  have hright : quote.isSuffixOf (quote ++ (s ++ quote)) :=
    List.isSuffixOf_iff_suffix.2 ⟨quote ++ s, List.append_assoc _ _ _⟩
  have htake : (quote ++ (s ++ quote)).length - 2 * quote.length = s.length := by
    simp only [List.length_append]
    omega
  have hends : (decide (2 * quote.length ≤ (quote ++ (s ++ quote)).length)
      && quote.isPrefixOf (quote ++ (s ++ quote)) && quote.isSuffixOf (quote ++ (s ++ quote)))
        = true := by
    rw [hleft, hright, decide_eq_true hlength]
    rfl
  rw [between?, if_pos hends, List.drop_left, htake, List.take_left]

/-- A quote stands at both ends of a text, and the two do not overlap. -/
theorem exists_between?_iff {quote s : List Char} :
    (∃ inner, between? quote s = some inner)
      ↔ 2 * quote.length ≤ s.length ∧ quote <+: s ∧ quote <:+ s := by
  rw [between?]
  split
  · next hends =>
      rw [Bool.and_eq_true, Bool.and_eq_true, decide_eq_true_iff, List.isPrefixOf_iff_prefix,
        List.isSuffixOf_iff_suffix] at hends
      exact ⟨fun _ => ⟨hends.1.1, hends.1.2, hends.2⟩, fun _ => ⟨_, rfl⟩⟩
  · next hends =>
      rw [Bool.and_eq_true, Bool.and_eq_true, decide_eq_true_iff, List.isPrefixOf_iff_prefix,
        List.isSuffixOf_iff_suffix] at hends
      refine ⟨nofun, fun ⟨hlength, hleft, hright⟩ => ?_⟩
      exact absurd ⟨⟨hlength, hleft⟩, hright⟩ hends

theorem between?_eq_some_iff {quote s inner : List Char} :
    between? quote s = some inner ↔ s = quote ++ (inner ++ quote) := by
  refine ⟨fun h => ?_, fun h => h ▸ between?_append quote inner⟩
  obtain ⟨hlength, ⟨rest, rfl⟩, hright⟩ := exists_between?_iff.1 ⟨inner, h⟩
  rw [List.length_append] at hlength
  obtain ⟨inner', rfl⟩ : quote <:+ rest :=
    List.suffix_of_suffix_length_le hright (List.suffix_append quote rest) (by omega)
  rw [between?_append, Option.some.injEq] at h
  rw [h]

/-- Three quotes enclose a text between single quotes just in case two more stand at either end of
    it. -/
theorem between?_tripleQuote_iff {s inner : List Char} :
    between? tripleQuote ('"' :: (s ++ ['"'])) = some inner
      ↔ between? ['"', '"'] s = some inner := by
  have hsplit : tripleQuote ++ (inner ++ tripleQuote)
      = '"' :: (['"', '"'] ++ (inner ++ ['"', '"']) ++ ['"']) := by
    simp [tripleQuote]
  rw [between?_eq_some_iff, between?_eq_some_iff, hsplit, List.cons_inj_right,
    List.append_cancel_right_eq]

/-- Blanks around an argument do not matter. -/
theorem stripQuotes_blanks {left right : String} (hleft : ∀ c ∈ left.toList, isBlank c)
    (hright : ∀ c ∈ right.toList, isBlank c) (text : String) :
    stripQuotes (left ++ text ++ right) = stripQuotes text := by
  rw [stripQuotes, stripQuotes, String.toList_append, String.toList_append,
    Text.stripChars_append_blanks hright, Text.stripChars_blanks_append hleft]

/-- A text of at least four characters that has two quotes at either end. -/
def HasQuotesAtEnds (t : String) : Prop :=
  4 ≤ t.length ∧ "\"\"".toList <+: t.toList ∧ "\"\"".toList <:+ t.toList

theorem hasQuotesAtEnds_iff {t : String} :
    HasQuotesAtEnds t ↔ ∃ inner, between? ['"', '"'] t.toList = some inner := by
  rw [exists_between?_iff, HasQuotesAtEnds, ← String.length_toList]
  rfl

namespace QuoteStyle

/-- A text between quotes. -/
def enclose (style : QuoteStyle) (t : String) : String :=
  String.ofList (style.marks ++ (t.toList ++ style.marks))

theorem toList_enclose (style : QuoteStyle) (t : String) :
    (style.enclose t).toList = style.marks ++ (t.toList ++ style.marks) :=
  String.toList_ofList

theorem stripChars_enclose (style : QuoteStyle) (t : String) :
    Text.stripChars (style.enclose t).toList = style.marks ++ (t.toList ++ style.marks) := by
  rw [toList_enclose]
  cases style with
  | plain => exact Text.stripChars_of_ends (by decide) (by decide) t.toList
  | triple =>
      have hends := Text.stripChars_of_ends (c := '"') (d := '"') (by decide) (by decide)
        ('"' :: '"' :: (t.toList ++ ['"', '"']))
      simpa [marks, tripleQuote] using hends

/-- The three quotes at either end are taken off, whatever stands between them. -/
theorem stripQuotes_enclose_triple (t : String) : stripQuotes (triple.enclose t) = t := by
  have htriple : between? tripleQuote (triple.marks ++ (t.toList ++ triple.marks))
      = some t.toList := between?_append _ _
  rw [stripQuotes, stripChars_enclose, htriple]
  exact String.ofList_toList

/-- A text between single quotes is what is left of it, unless it has two more quotes at either end:
    then those are taken off, too. -/
theorem stripQuotes_enclose_plain_iff {t : String} :
    stripQuotes (plain.enclose t) = t ↔ ¬ HasQuotesAtEnds t := by
  have hplain : between? ['"'] (plain.marks ++ (t.toList ++ plain.marks)) = some t.toList :=
    between?_append _ _
  rw [stripQuotes, stripChars_enclose, hplain, hasQuotesAtEnds_iff]
  cases htriple : between? tripleQuote (plain.marks ++ (t.toList ++ plain.marks)) with
  | none =>
      refine iff_of_true String.ofList_toList fun ⟨inner, hinner⟩ => ?_
      have hsome := between?_tripleQuote_iff.2 hinner
      exact nomatch htriple.symm.trans hsome
  | some inner =>
      have hinner : between? ['"', '"'] t.toList = some inner := between?_tripleQuote_iff.1 htriple
      refine iff_of_false (fun heq => ?_) (fun hnone => hnone ⟨inner, hinner⟩)
      -- what is left is shorter by the two quotes at either end
      have hlength := congrArg String.length heq
      have htext := congrArg List.length (between?_eq_some_iff.1 hinner)
      simp only [Option.some_or, Option.getD_some, String.length_ofList] at hlength
      simp only [List.length_append, List.length_cons, List.length_nil, String.length_toList]
        at htext
      omega

/-- The quotes around a text are taken off; between single ones it must not have any itself. -/
theorem stripQuotes_enclose (style : QuoteStyle) {t : String}
    (h : style = .plain → '"' ∉ t.toList) : stripQuotes (style.enclose t) = t := by
  cases style with
  | plain =>
      refine stripQuotes_enclose_plain_iff.2 fun ⟨_, hleft, _⟩ => h rfl ?_
      exact hleft.subset (by decide)
  | triple => exact stripQuotes_enclose_triple t

/-! ## Parameters between quotes -/

variable {style : QuoteStyle} {t : String} {s after : List Char} {p : String × String}

/-- What is read does not begin with a quote. -/
theorem suffix_of_read_cons {rest : List Char} (h : style.read s = some (p, after))
    (hs : s <:+ '"' :: rest) : s <:+ rest := by
  rcases List.suffix_cons_iff.1 hs with rfl | hs
  · rw [style.read_eq_none (by decide)] at h
    cases h
  · exact hs

/-- There is no named parameter between single quotes. -/
theorem namedParameters_enclose_plain (h : '"' ∉ t.toList) (name : String) :
    (namedParameters (plain.enclose t)).get? name = none := by
  -- what can be read would begin behind the first quote, where there is but one more
  have hnone (style : QuoteStyle) : ∀ s, s <:+ (plain.enclose t).toList → style.read s = none := by
    intro s hs
    by_contra hread
    obtain ⟨⟨p, after⟩, hfound⟩ := Option.ne_none_iff_exists'.1 hread
    rw [toList_enclose] at hs
    have hinner : s <:+ t.toList ++ plain.marks := suffix_of_read_cons hfound hs
    have hcount := hinner.sublist.count_le '"'
    have hone : (t.toList ++ plain.marks).count '"' = 1 := by
      rw [List.count_append, List.count_eq_zero.2 h]
      rfl
    have hmarks : 1 ≤ style.marks.length := by cases style <;> decide
    refine hread (style.read_eq_none_of_count ?_)
    omega
  rw [Option.eq_none_iff_forall_ne_some]
  intro value hvalue
  obtain ⟨s, after, hs, hread⟩ := exists_read_plain_of_get? (hnone .triple) hvalue
  rw [hnone .plain s hs] at hread
  cases hread

/-- Three quotes with at least three more characters after them do not reach into the last three
    quotes. -/
theorem tripleQuote_inside {front more : List Char} (hmore : 3 ≤ more.length)
    (h : front ++ (tripleQuote ++ more) = s ++ tripleQuote) : tripleQuote <:+: s := by
  have hfront : front ++ tripleQuote <+: s ++ tripleQuote := ⟨more, by rw [← h]; simp⟩
  have hle : (front ++ tripleQuote).length ≤ s.length := by
    have hlength := congrArg List.length h
    simp only [List.length_append] at hlength ⊢
    simp only [tripleQuote, List.length_cons, List.length_nil] at hlength ⊢
    omega
  have hinside := List.prefix_of_prefix_length_le hfront (List.prefix_append s tripleQuote) hle
  exact (List.suffix_append front tripleQuote).isInfix.trans hinside.isInfix

/-- If there are no three quotes in a text, no value in triple quotes is read between them. -/
theorem read_triple_enclose (h : ¬ tripleQuote <:+: t.toList)
    (hs : s <:+ (triple.enclose t).toList) : triple.read s = none := by
  by_contra hread
  obtain ⟨⟨⟨name, value⟩, after⟩, hfound⟩ := Option.ne_none_iff_exists'.1 hread
  rw [toList_enclose] at hs
  have hinner : s <:+ t.toList ++ tripleQuote :=
    suffix_of_read_cons hfound (suffix_of_read_cons hfound (suffix_of_read_cons hfound hs))
  obtain ⟨front, hfront⟩ := hinner
  obtain ⟨before, gap, -, -, -, -, rfl⟩ := triple.eq_of_read hfound
  -- its first quotes come before its last ones, so they stand inside
  have hmore : 3 ≤ (value.toList ++ (tripleQuote ++ after)).length := by
    simp only [List.length_append, tripleQuote, List.length_cons, List.length_nil]
    omega
  have hsplit : (front ++ (name.toList ++ (before ++ '=' :: gap)))
      ++ (tripleQuote ++ (value.toList ++ (tripleQuote ++ after))) = t.toList ++ tripleQuote := by
    rw [← hfront]
    simp [marks]
  exact h (tripleQuote_inside hmore hsplit)

/-- A word without quotes that stands between quotes stands in the text itself. -/
theorem infix_of_infix_enclose {word : List Char} (hne : word ≠ []) (hquote : '"' ∉ word)
    (h : word <:+: (style.enclose t).toList) : word <:+: t.toList := by
  have hdisjoint : List.Disjoint word style.marks := by
    refine List.disjoint_right.2 fun c hc hmem => ?_
    obtain rfl : c = '"' := by
      cases style <;> simpa [marks, tripleQuote] using hc
    exact hquote hmem
  rwa [toList_enclose, Text.infix_append_of_disjoint_left hne hdisjoint,
    Text.infix_append_of_disjoint_right hne hdisjoint] at h

end QuoteStyle

end AgentScript.Script
