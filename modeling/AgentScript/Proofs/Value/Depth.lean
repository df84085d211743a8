import AgentScript.Proofs.Text.Word
import AgentScript.Proofs.Value.JsonReader
import Mathlib.Data.List.Infix

set_option autoImplicit false

/-! # Texts that are nested too deep

Every list and every dictionary takes an opening bracket, so a text with no more of them than may be
open at once is never nested too deep (`IsTooDeep.lt_openings`). -/

namespace AgentScript.Value

/-- A text that looks like JSON and opens too many containers before anything else is wrong. -/
def IsTooDeep (v : Value) : Prop :=
  ∃ text container, v = .str text ∧ v.looksLikeJson ∧
    readJson text.toList = .error (.tooDeep container)

/-- Decoding fails for no other reason. -/
theorem exists_decodeJson_error_iff {v : Value} : (∃ f, v.decodeJson = .error f) ↔ v.IsTooDeep := by
  constructor
  · rintro ⟨f, h⟩
    unfold decodeJson at h
    split at h
    · next text =>
        split at h
        · next hlooks =>
            split at h
            · cases h
            · cases h
            · next container hread => exact ⟨text, container, rfl, hlooks, hread⟩
        · cases h
    · cases h
  · rintro ⟨text, container, rfl, hlooks, hread⟩
    refine ⟨.nestedTooDeep container, ?_⟩
    simp only [decodeJson, if_pos hlooks, hread]

/-! ## What is left after a token -/

theorem suffix_of_readNamed {s rest : List Char} {v : Value} (h : readNamed s = some (v, rest)) :
    rest <:+ s := by
  obtain ⟨entry, -, hread⟩ := List.exists_of_findSome?_eq_some h
  obtain ⟨after, hmatch, heq⟩ := Option.map_eq_some_iff.1 hread
  cases heq
  exact ⟨entry.1, (Text.matchText_eq_some_iff.1 hmatch).symm⟩

theorem suffix_of_stringBody {s body rest : List Char} (h : stringBody s = some (body, rest)) :
    rest <:+ s := by
  fun_induction stringBody s generalizing body rest with
  | case1 => cases h
  | case2 s =>
      cases h
      exact List.suffix_cons _ _
  | case3 c s ih =>
      obtain ⟨⟨b, a⟩, hbody, heq⟩ := Option.map_eq_some_iff.1 h
      cases heq
      exact (ih hbody).trans ((List.suffix_cons c s).trans (List.suffix_cons _ _))
  | case4 c s _ _ ih =>
      obtain ⟨⟨b, a⟩, hbody, heq⟩ := Option.map_eq_some_iff.1 h
      cases heq
      exact (ih hbody).trans (List.suffix_cons c s)

theorem suffix_of_readString {s rest : List Char} {text : String}
    (h : readString s = some (text, rest)) : rest <:+ s := by
  simp only [readString, Option.bind_eq_bind, Option.bind_eq_some_iff, Prod.exists,
    Option.pure_def, Option.some.injEq, Prod.mk.injEq] at h
  obtain ⟨body, after, hbody, -, -, -, rfl⟩ := h
  exact suffix_of_stringBody hbody

theorem suffix_of_wholePart {s whole rest : List Char} (h : wholePart s = some (whole, rest)) :
    rest <:+ s := by
  unfold wholePart at h
  split at h
  · cases h
  · next c s =>
      split at h
      · cases h
        exact List.suffix_cons c _
      · split at h
        · cases h
          exact (List.dropWhile_suffix _).trans (List.suffix_cons c s)
        · cases h

theorem fractionPart_suffix (s : List Char) : (fractionPart s).2 <:+ s := by
  unfold fractionPart
  split
  · next rest =>
      dsimp only
      split
      · exact List.suffix_refl _
      · exact (List.dropWhile_suffix _).trans (List.suffix_cons _ rest)
  · exact List.suffix_refl _

theorem readSign_suffix (s : List Char) : (Decimal.readSign s).2 <:+ s := by
  unfold Decimal.readSign
  split
  · exact List.suffix_cons _ _
  · exact List.suffix_cons _ _
  · exact List.suffix_refl _

theorem exponentPart_suffix (s : List Char) : (exponentPart s).2 <:+ s := by
  unfold exponentPart
  split
  · exact List.suffix_refl _
  · next mark rest =>
      split
      · dsimp only
        split
        · exact List.suffix_refl _
        · exact (List.dropWhile_suffix _).trans
            ((readSign_suffix rest).trans (List.suffix_cons mark rest))
      · exact List.suffix_refl _

theorem suffix_of_readNumber {s rest : List Char} {v : Value}
    (h : readNumber s = some (v, rest)) : rest <:+ s := by
  simp only [readNumber, Option.bind_eq_bind, Option.bind_eq_some_iff, Prod.exists,
    Option.pure_def, Option.some.injEq, Prod.mk.injEq] at h
  obtain ⟨whole, after, hwhole, value, hvalue, rfl, rfl⟩ := h
  refine (exponentPart_suffix _).trans ((fractionPart_suffix _).trans
    ((suffix_of_wholePart hwhole).trans ?_))
  split
  · exact List.drop_suffix 1 s
  · exact List.suffix_refl s

/-- Reading a token takes it off the front of the text. -/
theorem Takes.suffix {c : Char} {rest after : List Char} {t : Token} (h : Takes c rest t after) :
    after <:+ c :: rest := by
  cases h with
  | punctuation ht => exact List.suffix_cons c rest
  | string h => exact (suffix_of_readString h).trans (List.suffix_cons c rest)
  | named h => exact suffix_of_readNamed h
  | number h => exact suffix_of_readNumber h
  | junk => exact List.nil_suffix

/-! ## Opening brackets -/

/-- The brackets that open a list or a dictionary. -/
def isOpening (c : Char) : Bool :=
  c == '[' || c == '\x7b'

/-- The tokens that open a list or a dictionary. -/
def Token.opens : Token → Bool
  | .openList | .openDict => true
  | _ => false

/-- An opening token takes one opening bracket and nothing else. -/
theorem Takes.of_opens {c : Char} {rest after : List Char} {t : Token} (h : Takes c rest t after)
    (ht : t.opens) : isOpening c ∧ after = rest := by
  cases h with
  | punctuation hread =>
      refine ⟨?_, rfl⟩
      unfold punctuation? at hread
      split_ifs at hread with hlist _ hdict <;> cases hread <;> cases ht
      · simp [isOpening, hlist]
      · simp [isOpening, hdict]
  | string | named | number | junk => cases ht

theorem countP_tokens_le (s : List Char) :
    (tokens s).countP Token.opens ≤ s.countP isOpening := by
  fun_induction tokens s with
  | case1 => exact Nat.le_refl _
  | case2 c rest hblank ih => exact ih.trans (List.sublist_cons_self c rest).countP_le
  | case3 c rest hblank ih =>
      -- only an opening token counts, and its bracket is not in what is left
      have htakes := nextToken_takes c rest
      by_cases hopens : (nextToken c rest).1.opens
      · obtain ⟨hc, hafter⟩ := htakes.of_opens hopens
        rw [hafter] at ih ⊢
        rw [List.countP_cons_of_pos hopens, List.countP_cons_of_pos hc]
        exact Nat.succ_le_succ ih
      · rw [List.countP_cons_of_neg hopens]
        exact ih.trans htakes.suffix.sublist.countP_le

theorem length_opened_complete (v : Value) (opened : List Open) :
    (Reading.complete v opened).opened.length = opened.length := by
  cases opened with
  | nil => rfl
  | cons o outer => cases o <;> rfl

/-- Reading a token opens at most one container, and only if the token opens one. -/
theorem Steps.length_opened_le {r next : Reading} {t : Token} (h : Steps r t next) :
    next.opened.length ≤ r.opened.length + if t.opens then 1 else 0 := by
  cases h with
  | enter h => cases h <;> exact Nat.le_refl _
  | atom v => exact (length_opened_complete v _).le
  | closeList | closeDict =>
      rw [length_opened_complete]
      exact Nat.le_add_right _ _
  | key | colon | nextItem | nextEntry => exact Nat.le_refl _

/-- Where too many containers are open, that many tokens have opened one. -/
theorem tooDeep_of_run {ts : List Token} {r : Reading} {container : Container}
    (h : r.run ts = .error (.tooDeep container)) :
    nestingLimit < r.opened.length + ts.countP Token.opens := by
  -- what is open already and what is still to be opened never becomes more together
  induction ts generalizing r with
  | nil => cases h
  | cons t ts ih =>
      rw [Reading.run] at h
      cases hstep : r.step t with
      | error fault =>
          rw [hstep] at h
          cases h
          obtain ⟨hlimit, container, rfl⟩ := tooDeep_of_step hstep
          have hopens : (openingToken container).opens := by cases container <;> rfl
          rw [List.countP_cons_of_pos hopens]
          omega
      | ok next =>
          rw [hstep] at h
          have hnext := (steps_of_step hstep).length_opened_le
          have hrest := ih h
          rw [List.countP_cons]
          omega

/-- A text is nested too deep only if it has too many opening brackets. -/
theorem IsTooDeep.lt_openings {text : String} (h : (Value.str text).IsTooDeep) :
    nestingLimit < text.toList.countP isOpening := by
  obtain ⟨_, container, ⟨⟩, -, hread⟩ := h
  have hopens := tooDeep_of_run (run_of_tooDeep hread)
  rw [List.length_nil, Nat.zero_add] at hopens
  exact Nat.lt_of_lt_of_le hopens (countP_tokens_le text.toList)

end AgentScript.Value
