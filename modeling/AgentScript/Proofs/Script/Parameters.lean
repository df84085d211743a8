import AgentScript.Proofs.Bindings
import AgentScript.Proofs.Text.Word
import AgentScript.Script.Parameters
import Mathlib.Data.List.Infix
import Mathlib.Data.List.TakeWhile

set_option autoImplicit false

/-! # Parameters that are written and read back

Named parameters are read back as they were written, whichever way their values are quoted
(`namedParameters_written`). The text is scanned twice, and what a scan does is said without the
bound on its length (`Collects`). A scan of a list of parameters does to each of them what it does
to it alone, since only a comma may follow (`Collects.join`): it takes out the parameters of its own
style (`yields_self`) and leaves the others as they are. In the first scan, for triple quotes, this
holds because the first quote of a plain parameter is not followed by two more, wherever the scan
starts (`Collects.skip_past_quote`). -/

namespace AgentScript.Script

open Text (isBlank isWordChar matchText matchText_eq_some_iff)

/-! ## Scans -/

section Scans

variable {read : List Char → Option ((String × String) × List Char)} {s left : List Char}
  {found : List (String × String)}

/-- Scanning `s` for what `read` reads finds `found` and leaves `left`. -/
def Collects (read : List Char → Option ((String × String) × List Char)) (s : List Char)
    (found : List (String × String)) (left : List Char) : Prop :=
  ∀ fuel, s.length ≤ fuel → collect read fuel s = (found, left)

namespace Collects

theorem nil : Collects read [] [] [] := by
  intro fuel _
  cases fuel <;> rfl

theorem skip {c : Char} (h : read (c :: s) = none) (hs : Collects read s found left) :
    Collects read (c :: s) found (c :: left) := by
  intro fuel hfuel
  cases fuel with
  | zero => cases hfuel
  | succ fuel => rw [collect, h, hs fuel (Nat.le_of_succ_le_succ hfuel)]

theorem take {p : String × String} {after : List Char} (h : read s = some (p, after))
    (hlt : after.length < s.length) (hs : Collects read after found left) :
    Collects read s (p :: found) left := by
  intro fuel hfuel
  cases s with
  | nil => cases hlt
  | cons c s =>
      cases fuel with
      | zero => cases hfuel
      | succ fuel =>
          have hafter : collect read fuel after = (found, left) := by
            refine hs fuel ?_
            rw [List.length_cons] at hlt hfuel
            omega
          simp only [collect, h, hafter]

end Collects

/-- The text after a parameter: none, or a comma first. -/
def EndsParameter (rest : List Char) : Prop :=
  ∀ c ∈ rest.head?, c = ','

theorem EndsParameter.head?_ne {rest : List Char} (h : EndsParameter rest) :
    rest.head? ≠ some '"' := by
  intro hquote
  exact absurd (h _ hquote) (by decide)

/-- Whatever comes after `piece`, scanning it finds `found` and leaves `left` of it. -/
def Yields (read : List Char → Option ((String × String) × List Char)) (piece : List Char)
    (found : List (String × String)) (left : List Char) : Prop :=
  ∀ rest others last, EndsParameter rest → Collects read rest others last →
    Collects read (piece ++ rest) (found ++ others) (left ++ last)

/-- Pieces between commas are scanned one by one. -/
theorem Collects.join {α : Type} (hcomma : ∀ s, read (',' :: s) = none)
    {piece left : α → List Char} {found : α → List (String × String)} {ps : List α}
    (h : ∀ p ∈ ps, Yields read (piece p) (found p) (left p)) :
    Collects read ([','].intercalate (ps.map piece)) (ps.flatMap found)
      ([','].intercalate (ps.map left)) := by
  induction ps with
  | nil => exact .nil
  | cons p rest ih =>
      obtain ⟨hp, hrest⟩ := List.forall_mem_cons.1 h
      -- the last piece ends the text, and a comma follows any other
      cases rest with
      | nil =>
          have hend : EndsParameter [] := by rintro c ⟨⟩
          have hlast := hp _ _ _ hend .nil
          rw [List.append_nil, List.append_nil] at hlast
          simpa using hlast
      | cons q rest =>
          have hcomma' : EndsParameter (',' :: [','].intercalate ((q :: rest).map piece)) := by
            rintro c ⟨⟩
            rfl
          have hjoined := hp _ _ _ hcomma' ((ih hrest).skip (hcomma _))
          simpa [List.intercalate_cons_cons] using hjoined

end Scans

/-! ## Reading one parameter -/

/-- No name begins with a character that does not belong to words. -/
theorem readParameter_eq_none {quote : List Char}
    {value : List Char → Option (List Char × List Char)} {c : Char} (hc : isWordChar c = false)
    (s : List Char) : readParameter quote value (c :: s) = none := by
  have hword : (c :: s).takeWhile isWordChar = [] := List.takeWhile_cons_of_neg (by simp [hc])
  have hkey : readKey (c :: s) = none := by rw [readKey, hword]
  rw [readParameter, hkey]
  rfl

theorem readKey_append {name before after s : List Char} (hne : name ≠ [])
    (hname : ∀ c ∈ name, isWordChar c) (hbefore : ∀ c ∈ before, isBlank c)
    (hafter : ∀ c ∈ after, isBlank c) (hs : ∀ c ∈ s.head?, isBlank c = false) :
    readKey (name ++ (before ++ '=' :: (after ++ s))) = some (name, s) := by
  have hend : ∀ c ∈ (before ++ '=' :: (after ++ s)).head?, isWordChar c = false := by
    cases before with
    | nil =>
        rintro c ⟨⟩
        decide
    | cons b before =>
        rintro c ⟨⟩
        exact Text.isWordChar_of_isBlank (hbefore b List.mem_cons_self)
  have hequals : ∀ c ∈ ('=' :: (after ++ s)).head?, isBlank c = false := by
    rintro c ⟨⟩
    decide
  rw [readKey, Text.takeWhile_run hname hend, Text.dropWhile_run hname hend,
    Text.dropWhile_run hbefore hequals]
  cases name with
  | nil => exact absurd rfl hne
  | cons c name =>
      show some (c :: name, (after ++ s).dropWhile isBlank) = some (c :: name, s)
      rw [Text.dropWhile_run hafter hs]

/-- What is read is a name and an equals sign, with nothing but blanks around the sign. -/
theorem eq_of_readKey {s name rest : List Char} (h : readKey s = some (name, rest)) :
    ∃ before after, name ≠ [] ∧ (∀ c ∈ name, isWordChar c) ∧ (∀ c ∈ before, isBlank c)
      ∧ (∀ c ∈ after, isBlank c) ∧ s = name ++ (before ++ '=' :: (after ++ rest)) := by
  unfold readKey at h
  split at h
  · cases h
  · next hne =>
      split at h
      · next t hequals =>
          cases h
          refine ⟨(s.dropWhile isWordChar).takeWhile isBlank, t.takeWhile isBlank, hne,
            fun c hc => List.mem_takeWhile_imp hc, fun c hc => List.mem_takeWhile_imp hc,
            fun c hc => List.mem_takeWhile_imp hc, ?_⟩
          rw [List.takeWhile_append_dropWhile, ← hequals, List.takeWhile_append_dropWhile,
            List.takeWhile_append_dropWhile]
      · cases h

/-- No quotes stand in front of what follows a name. -/
theorem readKey_spec {s name rest : List Char} (h : readKey s = some (name, rest)) :
    ∃ u, s = u ++ rest ∧ '"' ∉ u := by
  obtain ⟨before, after, -, hname, hbefore, hafter, rfl⟩ := eq_of_readKey h
  refine ⟨name ++ (before ++ '=' :: after), by simp, ?_⟩
  have hword : '"' ∉ name := fun hmem => absurd (hname _ hmem) (by decide)
  have hblank : '"' ∉ before := fun hmem => absurd (hbefore _ hmem) (by decide)
  have hblank' : '"' ∉ after := fun hmem => absurd (hafter _ hmem) (by decide)
  simp [hword, hblank, hblank']

/-! ## Quotes -/

/-- How a value is quoted. -/
inductive QuoteStyle where
  | plain
  | triple
deriving DecidableEq

namespace QuoteStyle

/-- The quotes at either end of a value. -/
def marks : QuoteStyle → List Char
  | plain => ['"']
  | triple => tripleQuote

/-- The reader of a value behind its first quotes. -/
def readValue : QuoteStyle → List Char → Option (List Char × List Char)
  | plain => quotedValue
  | triple => tripleQuotedValue

/-- The reader of a parameter. -/
def read (style : QuoteStyle) : List Char → Option ((String × String) × List Char) :=
  readParameter style.marks style.readValue

/-- Whether a value can stand between quotes: between single ones if it has none itself, and between
    triple ones if what follows three quotes in it is always a quote. -/
def Allows : QuoteStyle → List Char → Prop
  | plain, value => '"' ∉ value
  | triple, value => ∀ c ∈ value, tripleQuote ++ [c] <:+: value → c = '"'

instance (style : QuoteStyle) (value : List Char) : Decidable (style.Allows value) :=
  match style with
  | plain => inferInstanceAs (Decidable ('"' ∉ value))
  | triple => List.decidableBAll (fun c => tripleQuote ++ [c] <:+: value → c = '"') value

theorem ne_quote_of_not_mem {u : List Char} (h : '"' ∉ u) : ∀ c ∈ u, (c != '"') = true := by
  intro c hc
  rw [bne_iff_ne]
  rintro rfl
  exact h hc

theorem dropWhile_to_quote {u : List Char} (h : '"' ∉ u) (s : List Char) :
    (u ++ s).dropWhile (· != '"') = s.dropWhile (· != '"') :=
  List.dropWhile_append_of_pos (ne_quote_of_not_mem h)

theorem quotedValue_append {value : List Char} (h : '"' ∉ value) (rest : List Char) :
    quotedValue (value ++ '"' :: rest) = some (value, rest) := by
  have hvalue := ne_quote_of_not_mem h
  have hquote : ∀ c ∈ ('"' :: rest).head?, (c != '"') = false := by
    rintro c ⟨⟩
    rfl
  rw [quotedValue, Text.dropWhile_run hvalue hquote, Text.takeWhile_run hvalue hquote]

/-- Three quotes that begin before the end of a value are followed by a further one. -/
theorem head?_after_quotes {value rest after : List Char} (hne : value ≠ [])
    (h : triple.Allows value)
    (hquotes : value ++ (tripleQuote ++ rest) = tripleQuote ++ after) :
    after.head? = some '"' := by
  rcases List.append_eq_append_iff.1 hquotes with ⟨more, hmore, hafter⟩ | ⟨more, hvalue, rfl⟩
  · -- the value ends within the three quotes, which leaves two of the last ones at most
    match more with
    | [] => exact (congrArg List.head? hafter).symm
    | [_] =>
        cases hafter
        rfl
    | [_, _] =>
        cases hafter
        rfl
    | _ :: _ :: _ :: _ =>
        have hlength := congrArg List.length hmore
        have hpos := List.length_pos_iff.2 hne
        simp [tripleQuote] at hlength
        omega
  · cases more with
    | nil => rfl
    | cons c more =>
        have hinfix : tripleQuote ++ [c] <:+: value := ⟨[], more, by simp [hvalue]⟩
        have hc : c ∈ value := hinfix.subset (by simp)
        exact congrArg some (h c hc hinfix)

/-- The three quotes behind a value are the first ones that no further quote follows. -/
theorem tripleQuotedValue_append {value rest : List Char} (h : triple.Allows value)
    (hrest : rest.head? ≠ some '"') :
    tripleQuotedValue (value ++ (tripleQuote ++ rest)) = some (value, rest) := by
  induction value with
  | nil =>
      have hmatch : matchText tripleQuote ('"' :: '"' :: '"' :: rest) = some rest :=
        matchText_eq_some_iff.2 rfl
      show tripleQuotedValue ('"' :: '"' :: '"' :: rest) = _
      rw [tripleQuotedValue, hmatch]
      exact if_neg hrest
  | cons c value ih =>
      have hvalue : triple.Allows value := fun d hd hinfix =>
        h d (List.mem_cons_of_mem c hd) (List.infix_cons hinfix)
      rw [List.cons_append, tripleQuotedValue, ih hvalue]
      cases hmatch : matchText tripleQuote (c :: (value ++ (tripleQuote ++ rest))) with
      | none => rfl
      | some after =>
          have hquotes := matchText_eq_some_iff.1 hmatch
          have hafter := head?_after_quotes (List.cons_ne_nil c value) h hquotes
          exact if_pos hafter

/-- The first quote of a plain value is not followed by two more, even if the value is empty. -/
theorem not_triple_of_plain {value rest : List Char} (h : plain.Allows value)
    (hrest : rest.head? ≠ some '"') :
    ¬ tripleQuote <+: '"' :: (value ++ '"' :: rest) := by
  rintro ⟨more, hmore⟩
  cases value with
  | nil =>
      cases hmore
      exact hrest rfl
  | cons c value =>
      have hc : '"' = c := List.head_eq_of_cons_eq (List.tail_eq_of_cons_eq hmore)
      exact h (hc ▸ List.mem_cons_self)

theorem readValue_append (style : QuoteStyle) {value rest : List Char}
    (h : style.Allows value) (hrest : rest.head? ≠ some '"') :
    style.readValue (value ++ (style.marks ++ rest)) = some (value, rest) := by
  cases style with
  | plain => exact quotedValue_append h rest
  | triple => exact tripleQuotedValue_append h hrest

theorem read_eq_none (style : QuoteStyle) {c : Char} (hc : isWordChar c = false) (s : List Char) :
    style.read (c :: s) = none :=
  readParameter_eq_none hc s

/-- A parameter in triple quotes can be read only where the next quote is followed by two more. -/
theorem read_triple_eq_none {s : List Char}
    (h : ¬ tripleQuote <+: s.dropWhile (· != '"')) : triple.read s = none := by
  by_contra hread
  obtain ⟨found, hfound⟩ := Option.ne_none_iff_exists'.1 hread
  obtain ⟨⟨name, rest⟩, hkey, hvalue⟩ := Option.bind_eq_some_iff.1 hfound
  obtain ⟨body, hbody, -⟩ := Option.bind_eq_some_iff.1 hvalue
  -- no quote stands in front of those that the value begins with
  obtain ⟨u, rfl, hu⟩ := readKey_spec hkey
  obtain rfl : rest = tripleQuote ++ body := matchText_eq_some_iff.1 hbody
  rw [dropWhile_to_quote hu] at h
  exact h (List.prefix_append tripleQuote body)

end QuoteStyle

section Skips

variable {s left : List Char} {found : List (String × String)}

theorem Collects.skip_blanks {style : QuoteStyle} {u : List Char} (hu : ∀ c ∈ u, isBlank c)
    (h : Collects style.read s found left) : Collects style.read (u ++ s) found (u ++ left) := by
  induction u with
  | nil => exact h
  | cons c u ih =>
      obtain ⟨hc, hrest⟩ := List.forall_mem_cons.1 hu
      exact (ih hrest).skip (style.read_eq_none (Text.isWordChar_of_isBlank hc) _)

/-- The scan for triple quotes passes over a quote that two more do not follow, and over what stands
    in front of it. -/
theorem Collects.skip_past_quote {u : List Char} (hu : '"' ∉ u)
    (hs : ¬ tripleQuote <+: '"' :: s) (h : Collects QuoteStyle.triple.read s found left) :
    Collects QuoteStyle.triple.read (u ++ '"' :: s) found (u ++ '"' :: left) := by
  induction u with
  | nil => exact h.skip (QuoteStyle.read_eq_none .triple (by decide) s)
  | cons c u ih =>
      have hrest : '"' ∉ u := fun hmem => hu (List.mem_cons_of_mem c hmem)
      have hdrop : (c :: (u ++ '"' :: s)).dropWhile (· != '"') = '"' :: s :=
        QuoteStyle.dropWhile_to_quote hu ('"' :: s)
      have hnone : QuoteStyle.triple.read (c :: (u ++ '"' :: s)) = none := by
        refine QuoteStyle.read_triple_eq_none ?_
        rwa [hdrop]
      exact (ih hrest).skip hnone

end Skips

/-! ## Written parameters -/

/-- A named parameter as it is written. -/
structure WrittenParameter where
  name : String
  value : String
  style : QuoteStyle
  /-- The blanks in front of the name, behind the comma if there is one. -/
  gap : List Char := []
  /-- The blanks in front of the equals sign. -/
  before : List Char := []
  /-- The blanks behind the equals sign. -/
  after : List Char := []
  name_ne_empty : name ≠ ""
  name_word : ∀ c ∈ name.toList, isWordChar c
  gap_blank : ∀ c ∈ gap, isBlank c
  before_blank : ∀ c ∈ before, isBlank c
  after_blank : ∀ c ∈ after, isBlank c
  value_allowed : style.Allows value.toList

namespace WrittenParameter

variable (p : WrittenParameter)

/-- The name and the value. -/
def entry : String × String :=
  (p.name, p.value)

/-- The parameter without the blanks in front. -/
def pair : List Char :=
  p.name.toList ++ (p.before ++ '=' :: (p.after ++
    (p.style.marks ++ (p.value.toList ++ p.style.marks))))

/-- The text of the parameter. -/
def text : String :=
  String.ofList (p.gap ++ p.pair)

theorem read_pair {rest : List Char} (hrest : EndsParameter rest) :
    p.style.read (p.pair ++ rest) = some (p.entry, rest) := by
  have hname : p.name.toList ≠ [] := by
    intro h
    exact p.name_ne_empty (String.toList_eq_nil_iff.1 h)
  have hquote : ∀ c ∈ (p.style.marks ++ (p.value.toList ++ (p.style.marks ++ rest))).head?,
      isBlank c = false := by
    cases p.style <;> rintro c ⟨⟩ <;> decide
  have hkey := readKey_append hname p.name_word p.before_blank p.after_blank hquote
  have hmarks : matchText p.style.marks
      (p.style.marks ++ (p.value.toList ++ (p.style.marks ++ rest)))
        = some (p.value.toList ++ (p.style.marks ++ rest)) :=
    matchText_eq_some_iff.2 rfl
  have hvalue := p.style.readValue_append p.value_allowed hrest.head?_ne
  simp only [pair, List.append_assoc, List.cons_append, QuoteStyle.read, readParameter, hkey,
    hmarks, hvalue, Option.bind_eq_bind, Option.bind_some, entry, String.ofList_toList]
  rfl

theorem yields_gap (style : QuoteStyle) : Yields style.read p.gap [] p.gap := by
  intro rest others last _ h
  exact h.skip_blanks p.gap_blank

/-- A scan for its own style takes a parameter out, up to the blanks in front. -/
theorem yields_self {style : QuoteStyle} (hstyle : p.style = style) :
    Yields style.read (p.gap ++ p.pair) [p.entry] p.gap := by
  subst hstyle
  intro rest others last hrest h
  have hlt : rest.length < (p.pair ++ rest).length := by
    simp only [pair, List.length_append, List.length_cons]
    omega
  rw [List.append_assoc]
  exact (h.take (p.read_pair hrest) hlt).skip_blanks p.gap_blank

/-- A scan for triple quotes leaves a plain parameter as it is. -/
theorem yields_plain (hplain : p.style = .plain) :
    Yields QuoteStyle.triple.read (p.gap ++ p.pair) [] (p.gap ++ p.pair) := by
  intro rest others last hrest h
  have hvalue : '"' ∉ p.value.toList := by
    have hallowed := p.value_allowed
    rwa [hplain] at hallowed
  have hfront : '"' ∉ p.gap ++ (p.name.toList ++ (p.before ++ '=' :: p.after)) := by
    have hname : '"' ∉ p.name.toList := fun hmem => absurd (p.name_word _ hmem) (by decide)
    have hgap : '"' ∉ p.gap := fun hmem => absurd (p.gap_blank _ hmem) (by decide)
    have hbefore : '"' ∉ p.before := fun hmem => absurd (p.before_blank _ hmem) (by decide)
    have hafter : '"' ∉ p.after := fun hmem => absurd (p.after_blank _ hmem) (by decide)
    simp [hname, hgap, hbefore, hafter]
  have hlast : ¬ tripleQuote <+: '"' :: rest := by
    rintro ⟨more, hmore⟩
    cases hmore
    exact hrest.head?_ne rfl
  have hfirst := QuoteStyle.not_triple_of_plain hvalue hrest.head?_ne
  -- the scan passes the last quote from the end of the value, and the first one from the front
  have hall := (h.skip_past_quote hvalue hlast).skip_past_quote hfront hfirst
  simpa [pair, hplain, QuoteStyle.marks] using hall

/-- The entry, if the parameter is of a style. -/
def entryOf (style : QuoteStyle) : List (String × String) :=
  if p.style = style then [p.entry] else []

/-- What the scan for triple quotes leaves of a parameter. -/
def remains : List Char :=
  if p.style = .triple then p.gap else p.gap ++ p.pair

theorem yields_remains :
    Yields QuoteStyle.triple.read (p.gap ++ p.pair) (p.entryOf .triple) p.remains := by
  unfold remains entryOf
  cases hstyle : p.style with
  | plain => exact p.yields_plain hstyle
  | triple => exact p.yields_self hstyle

theorem remains_yields :
    Yields QuoteStyle.plain.read p.remains (p.entryOf .plain) p.gap := by
  unfold remains entryOf
  cases hstyle : p.style with
  | plain => exact p.yields_self hstyle
  | triple => exact p.yields_gap .plain

end WrittenParameter

/-! ## Lists of parameters -/

open WrittenParameter (entry entryOf)

/-- Every parameter is found by one of the two scans. -/
theorem entryOf_perm (ps : List WrittenParameter) :
    (ps.flatMap (entryOf · .triple) ++ ps.flatMap (entryOf · .plain)).Perm (ps.map entry) := by
  induction ps with
  | nil => exact .nil
  | cons p rest ih =>
      rw [List.flatMap_cons, List.flatMap_cons, List.map_cons, entryOf, entryOf]
      cases p.style with
      | plain => exact List.perm_middle.trans (ih.cons p.entry)
      | triple => exact ih.cons p.entry

/-- The named parameters of a list of written ones with distinct names are their names and values,
    those in triple quotes first. -/
theorem namedParameters_entries {ps : List WrittenParameter} (h : (ps.map (·.name)).Nodup) :
    (namedParameters (",".intercalate (ps.map (·.text)))).entries
      = ps.flatMap (entryOf · .triple) ++ ps.flatMap (entryOf · .plain) := by
  have hchars : (",".intercalate (ps.map (·.text))).toList
      = [','].intercalate (ps.map fun p => p.gap ++ p.pair) := by
    rw [String.toList_intercalate, List.map_map]
    exact congrArg _ (List.map_congr_left fun p _ => String.toList_ofList)
  -- the second scan goes over what the first one leaves
  have htriple := Collects.join (QuoteStyle.read_eq_none .triple (by decide))
    fun p (_ : p ∈ ps) => p.yields_remains
  have hplain := Collects.join (QuoteStyle.read_eq_none .plain (by decide))
    fun p (_ : p ∈ ps) => p.remains_yields
  have hnodup : ((ps.flatMap (entryOf · .triple) ++ ps.flatMap (entryOf · .plain)).map
      Prod.fst).Nodup := by
    have hperm := (entryOf_perm ps).map Prod.fst
    rw [List.map_map] at hperm
    exact hperm.nodup_iff.2 h
  have hfirst : (Bindings.ofList (ps.flatMap (entryOf · .triple))).entries
      = ps.flatMap (entryOf · .triple) := by
    rw [List.map_append] at hnodup
    exact Bindings.ofList_entries hnodup.of_append_left
  have htripleScan := htriple _ (Nat.le_refl _)
  have hplainScan := hplain _ (Nat.le_refl _)
  simp only [QuoteStyle.read, QuoteStyle.marks, QuoteStyle.readValue] at htripleScan hplainScan
  simp only [namedParameters, hchars, htripleScan, hplainScan]
  rw [Bindings.foldl_entries, hfirst]
  · intro b e he
    rw [Bindings.contains_eq_false he]
    exact Bindings.put_entries he e.2
  · rwa [hfirst]

/-- Named parameters with distinct names are read back as they were written. -/
theorem namedParameters_written (ps : List WrittenParameter) (h : (ps.map (·.name)).Nodup) :
    (namedParameters (",".intercalate (ps.map (·.text)))).entries.Perm
        (ps.map fun p => (p.name, p.value))
      ∧ ∀ name value, (namedParameters (",".intercalate (ps.map (·.text)))).get? name = some value
        ↔ ∃ p ∈ ps, p.name = name ∧ p.value = value := by
  have hperm : (namedParameters (",".intercalate (ps.map (·.text)))).entries.Perm
      (ps.map entry) := by
    rw [namedParameters_entries h]
    exact entryOf_perm ps
  refine ⟨hperm, fun name value => ?_⟩
  have hnames : (namedParameters (",".intercalate (ps.map (·.text)))).names.Nodup := by
    have hnames := hperm.map Prod.fst
    rw [List.map_map] at hnames
    exact hnames.nodup_iff.2 h
  rw [Bindings.get?_eq_some_iff hnames, hperm.mem_iff, List.mem_map]
  simp only [entry, Prod.mk.injEq]

/-- A plain parameter with blanks around the equals sign and another one in its value. -/
def spacedTitle : WrittenParameter where
  name := "title"
  value := "x="
  style := .plain
  before := [' ']
  after := [' ']
  name_ne_empty := by decide
  name_word := List.all_eq_true.1 (by decide +kernel)
  gap_blank := List.forall_mem_nil _
  before_blank := List.forall_mem_singleton.2 (by decide)
  after_blank := List.forall_mem_singleton.2 (by decide)
  value_allowed := by decide +kernel

/-- A parameter in triple quotes on a new line, with a parameter and three last quotes in its
    value. -/
def quotedContent : WrittenParameter where
  name := "content"
  value := "title=\"y\",\n\"\"\""
  style := .triple
  gap := ['\n']
  name_ne_empty := by decide
  name_word := List.all_eq_true.1 (by decide +kernel)
  gap_blank := List.forall_mem_singleton.2 (by decide)
  before_blank := List.forall_mem_nil _
  after_blank := List.forall_mem_nil _
  value_allowed := by decide +kernel

theorem namedParameters_written_quotes :
    (namedParameters
        "title = \"x=\",\ncontent=\"\"\"title=\"y\",\n\"\"\"\"\"\"").get? "title" = some "x="
      ∧ (namedParameters
        "title = \"x=\",\ncontent=\"\"\"title=\"y\",\n\"\"\"\"\"\"").get? "content"
        = some "title=\"y\",\n\"\"\"" := by
  have htext : ",".intercalate ([spacedTitle, quotedContent].map (·.text))
      = "title = \"x=\",\ncontent=\"\"\"title=\"y\",\n\"\"\"\"\"\"" := by
    decide +kernel
  obtain ⟨-, hget⟩ := namedParameters_written [spacedTitle, quotedContent] (by decide +kernel)
  rw [htext] at hget
  exact ⟨(hget _ _).2 ⟨spacedTitle, by simp, rfl, rfl⟩,
    (hget _ _).2 ⟨quotedContent, by simp, rfl, rfl⟩⟩

end AgentScript.Script
