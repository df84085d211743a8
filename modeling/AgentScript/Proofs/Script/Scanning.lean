import AgentScript.Proofs.Script.Parameters

set_option autoImplicit false

/-! # What a scan finds

A parameter that is read stands in the text just as it is written: its name, an equals sign, and its
value between quotes (`QuoteStyle.eq_of_read`). A scan reads nothing else, and where nothing can be
read it leaves the text as it is (`Collects.of_none`). So whatever a text has as a named parameter
stands in what is left of the text after some parameters have been taken out
(`exists_read_of_get?`), and in the text itself if no value in it is in triple quotes
(`exists_read_plain_of_get?`). -/

namespace AgentScript.Script

open Text (isBlank isWordChar matchText_eq_some_iff)

/-! ## Reading -/

namespace QuoteStyle

theorem eq_of_quotedValue {s value after : List Char} (h : quotedValue s = some (value, after)) :
    s = value ++ '"' :: after := by
  unfold quotedValue at h
  split at h
  · next quote rest hrest =>
      cases h
      have hquote : (quote != '"') = false :=
        Text.of_mem_head?_dropWhile (p := (· != '"')) (s := s) (by rw [hrest]; rfl)
      obtain rfl : quote = '"' := bne_eq_false_iff_eq.1 hquote
      rw [← hrest, List.takeWhile_append_dropWhile]
  · cases h

theorem eq_of_tripleQuotedValue {s value after : List Char}
    (h : tripleQuotedValue s = some (value, after)) : s = value ++ (tripleQuote ++ after) := by
  induction s generalizing value with
  | nil => cases h
  | cons c s ih =>
      -- the value begins with this character, whether it is a quote or not
      have hlater {put : List Char × List Char → List Char × List Char}
          (hput : ∀ r, put r = (c :: r.1, r.2))
          (h : (tripleQuotedValue s).map put = some (value, after)) :
          c :: s = value ++ (tripleQuote ++ after) := by
        obtain ⟨⟨front, rest⟩, hrest, heq⟩ := Option.map_eq_some_iff.1 h
        rw [hput] at heq
        cases heq
        rw [ih hrest, List.cons_append]
      rw [tripleQuotedValue] at h
      split at h
      · next rest hquotes =>
          split at h
          · exact hlater (fun _ => rfl) h
          · cases h
            rw [List.nil_append]
            exact matchText_eq_some_iff.1 hquotes
      · exact hlater (fun _ => rfl) h

theorem eq_of_readValue (style : QuoteStyle) {s value after : List Char}
    (h : style.readValue s = some (value, after)) : s = value ++ (style.marks ++ after) := by
  cases style with
  | plain => exact eq_of_quotedValue h
  | triple => exact eq_of_tripleQuotedValue h

/-- A parameter that is read stands at the front of the text. -/
theorem eq_of_read (style : QuoteStyle) {s after : List Char} {name value : String}
    (h : style.read s = some ((name, value), after)) :
    ∃ before gap, name ≠ "" ∧ (∀ c ∈ name.toList, isWordChar c) ∧ (∀ c ∈ before, isBlank c)
      ∧ (∀ c ∈ gap, isBlank c)
      ∧ s = name.toList ++ (before ++ '=' :: (gap
        ++ (style.marks ++ (value.toList ++ (style.marks ++ after))))) := by
  obtain ⟨⟨word, rest⟩, hkey, hbody⟩ := Option.bind_eq_some_iff.1 h
  obtain ⟨body, hmarks, hvalue⟩ := Option.bind_eq_some_iff.1 hbody
  obtain ⟨⟨text, left⟩, hread, heq⟩ := Option.bind_eq_some_iff.1 hvalue
  cases heq
  obtain ⟨before, gap, hne, hword, hbefore, hgap, rfl⟩ := eq_of_readKey hkey
  refine ⟨before, gap, fun hempty => hne (by simpa using congrArg String.toList hempty), ?_,
    hbefore, hgap, ?_⟩
  · rwa [String.toList_ofList]
  · rw [String.toList_ofList, String.toList_ofList, matchText_eq_some_iff.1 hmarks,
      style.eq_of_readValue hread]

theorem suffix_of_read (style : QuoteStyle) {s after : List Char} {p : String × String}
    (h : style.read s = some (p, after)) : after <:+ s := by
  obtain ⟨before, gap, -, -, -, -, rfl⟩ := style.eq_of_read h
  exact ⟨p.1.toList ++ (before ++ '=' :: (gap ++ (style.marks ++ (p.2.toList ++ style.marks)))),
    by simp⟩

/-- Nothing is read where there are not enough quotes for a value. -/
theorem read_eq_none_of_count (style : QuoteStyle) {s : List Char}
    (h : s.count '"' < 2 * style.marks.length) : style.read s = none := by
  by_contra hread
  obtain ⟨⟨⟨name, value⟩, after⟩, hfound⟩ := Option.ne_none_iff_exists'.1 hread
  obtain ⟨before, gap, -, -, -, -, rfl⟩ := style.eq_of_read hfound
  have hmarks : style.marks.count '"' = style.marks.length := by cases style <;> rfl
  simp only [List.count_append, List.count_cons, hmarks] at h
  omega

end QuoteStyle

/-! ## Scanning -/

section Scans

variable {read : List Char → Option ((String × String) × List Char)} {s : List Char}

/-- A scan that can read nothing leaves the text as it is. -/
theorem Collects.of_none (h : ∀ t, t <:+ s → read t = none) : Collects read s [] s := by
  induction s with
  | nil => exact .nil
  | cons c s ih =>
      have hrest := ih fun t ht => h t (ht.trans (List.suffix_cons c s))
      exact hrest.skip (h _ List.suffix_rfl)

variable (hsuffix : ∀ s p after, read s = some (p, after) → after <:+ s)

include hsuffix

/-- A scan finds what can be read somewhere in the text. -/
theorem exists_read_of_mem_collect {fuel : Nat} {p : String × String}
    (h : p ∈ (collect read fuel s).1) : ∃ t after, t <:+ s ∧ read t = some (p, after) := by
  induction fuel generalizing s with
  | zero => cases h
  | succ fuel ih =>
      cases s with
      | nil => cases h
      | cons c s =>
          cases hread : read (c :: s) with
          | some found =>
              obtain ⟨q, after⟩ := found
              have hmem : p ∈ q :: (collect read fuel after).1 := by
                simpa only [collect, hread] using h
              rcases List.mem_cons.1 hmem with rfl | hmem
              · exact ⟨c :: s, after, List.suffix_rfl, hread⟩
              · obtain ⟨t, rest, ht, hfound⟩ := ih hmem
                exact ⟨t, rest, ht.trans (hsuffix _ _ _ hread), hfound⟩
          | none =>
              have hmem : p ∈ (collect read fuel s).1 := by
                simpa only [collect, hread] using h
              obtain ⟨t, rest, ht, hfound⟩ := ih hmem
              exact ⟨t, rest, ht.trans (List.suffix_cons c s), hfound⟩

/-- A scan leaves the text without what it takes out. -/
theorem collect_sublist (fuel : Nat) (s : List Char) : (collect read fuel s).2.Sublist s := by
  induction fuel generalizing s with
  | zero => exact List.Sublist.refl s
  | succ fuel ih =>
      cases s with
      | nil => exact List.Sublist.refl []
      | cons c s =>
          cases hread : read (c :: s) with
          | some found =>
              obtain ⟨q, after⟩ := found
              have hleft : (collect read (fuel + 1) (c :: s)).2 = (collect read fuel after).2 := by
                simp only [collect, hread]
              rw [hleft]
              exact (ih after).trans (hsuffix _ _ _ hread).sublist
          | none =>
              have hleft : (collect read (fuel + 1) (c :: s)).2
                  = c :: (collect read fuel s).2 := by
                simp only [collect, hread]
              rw [hleft]
              exact (ih s).cons_cons c

end Scans

/-! ## Named parameters -/

/-- What the two scans find: the parameters in triple quotes, and then those in single ones. -/
theorem mem_of_get?_namedParameters {text name value : String}
    (h : (namedParameters text).get? name = some value) :
    (name, value) ∈ (collect QuoteStyle.triple.read text.toList.length text.toList).1
      ∨ ∃ fuel, (name, value) ∈ (collect QuoteStyle.plain.read fuel
        (collect QuoteStyle.triple.read text.toList.length text.toList).2).1 := by
  have hstep (b : Bindings String) (e : String × String) :
      (if b.contains e.1 then b else b.put e.1 e.2) = b
        ∨ (if b.contains e.1 then b else b.put e.1 e.2) = b.put e.1 e.2 := by
    split
    · exact .inl rfl
    · exact .inr rfl
  rcases Bindings.get?_foldl_eq_some hstep h with htriple | hplain
  · exact .inl (Bindings.mem_of_get?_ofList htriple)
  · exact .inr ⟨_, hplain⟩

/-- A named parameter can be read in what is left of the text when others have been taken out. -/
theorem exists_read_of_get? {text name value : String}
    (h : (namedParameters text).get? name = some value) :
    ∃ style s after, s.Sublist text.toList
      ∧ QuoteStyle.read style s = some ((name, value), after) := by
  rcases mem_of_get?_namedParameters h with hmem | ⟨fuel, hmem⟩
  · obtain ⟨s, after, hs, hread⟩ :=
      exists_read_of_mem_collect (fun _ _ _ => QuoteStyle.triple.suffix_of_read) hmem
    exact ⟨.triple, s, after, hs.sublist, hread⟩
  · obtain ⟨s, after, hs, hread⟩ :=
      exists_read_of_mem_collect (fun _ _ _ => QuoteStyle.plain.suffix_of_read) hmem
    have hleft := collect_sublist (fun _ _ _ => QuoteStyle.triple.suffix_of_read)
      text.toList.length text.toList
    exact ⟨.plain, s, after, hs.sublist.trans hleft, hread⟩

/-- Where no value is in triple quotes, a named parameter can be read in the text itself. -/
theorem exists_read_plain_of_get? {text name value : String}
    (hnone : ∀ s, s <:+ text.toList → QuoteStyle.triple.read s = none)
    (h : (namedParameters text).get? name = some value) :
    ∃ s after, s <:+ text.toList ∧ QuoteStyle.plain.read s = some ((name, value), after) := by
  have htriple := Collects.of_none hnone text.toList.length (Nat.le_refl _)
  rcases mem_of_get?_namedParameters h with hmem | ⟨fuel, hmem⟩
  · rw [htriple] at hmem
    cases hmem
  · rw [htriple] at hmem
    exact exists_read_of_mem_collect (fun _ _ _ => QuoteStyle.plain.suffix_of_read) hmem

end AgentScript.Script
