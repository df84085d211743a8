import AgentScript.Proofs.Value.JsonReader
import Mathlib.Data.List.TakeWhile
import Mathlib.Data.Nat.Digits.Defs

set_option autoImplicit false

/-! # Values that have a text

A value has a text if it is made of texts, truth values, nulls, floating-point numbers, integers
that are not too long, lists, and dictionaries with texts for keys (`exists_toText`). Structured
text is never decoded to anything else (`isWritable_decodeJson`). -/

namespace AgentScript.Value

/-! ## What values are made of -/

mutual

/-- Whether a value is made of texts, truth values, nulls, floating-point numbers, integers that are
    fit for it, lists, and dictionaries with texts for keys. -/
def isMadeOf (fit : Int → Bool) : Value → Bool
  | .null | .bool _ | .float _ | .str _ => true
  | .int n => fit n
  | .list items => areMadeOf fit items
  | .dict entries => entriesMadeOf fit entries
  | .bytes _ | .tuple _ => false

/-- Whether all values of a list are made in this way. -/
def areMadeOf (fit : Int → Bool) : List Value → Bool
  | [] => true
  | item :: rest => item.isMadeOf fit && areMadeOf fit rest

/-- Whether the entries of a dictionary are made in this way and have texts for keys. -/
def entriesMadeOf (fit : Int → Bool) : List (Value × Value) → Bool
  | [] => true
  | (.str _, value) :: rest => value.isMadeOf fit && entriesMadeOf fit rest
  | _ :: _ => false

end

section

variable {fit fit' : Int → Bool}

theorem areMadeOf_iff {items : List Value} :
    areMadeOf fit items ↔ ∀ item ∈ items, item.isMadeOf fit := by
  induction items with
  | nil => simp [areMadeOf]
  | cons item rest ih => rw [areMadeOf, Bool.and_eq_true, ih, List.forall_mem_cons]

theorem entriesMadeOf_iff {entries : List (Value × Value)} :
    entriesMadeOf fit entries
      ↔ ∀ e ∈ entries, (∃ key, e.1 = .str key) ∧ e.2.isMadeOf fit := by
  induction entries with
  | nil => simp [entriesMadeOf]
  | cons e rest ih =>
      obtain ⟨key, value⟩ := e
      cases key <;> simp [entriesMadeOf, ih]

mutual

theorem isMadeOf_mono (h : ∀ n, fit n → fit' n) :
    (v : Value) → v.isMadeOf fit → v.isMadeOf fit'
  | .null, _ | .bool _, _ | .float _, _ | .str _, _ => rfl
  | .int n, hn => h n hn
  | .list items, hitems => areMadeOf_mono h items hitems
  | .dict entries, hentries => entriesMadeOf_mono h entries hentries

theorem areMadeOf_mono (h : ∀ n, fit n → fit' n) :
    (items : List Value) → areMadeOf fit items → areMadeOf fit' items
  | [], _ => rfl
  | item :: rest, hitems => by
      rw [areMadeOf, Bool.and_eq_true] at hitems ⊢
      exact ⟨isMadeOf_mono h item hitems.1, areMadeOf_mono h rest hitems.2⟩

theorem entriesMadeOf_mono (h : ∀ n, fit n → fit' n) :
    (entries : List (Value × Value)) → entriesMadeOf fit entries → entriesMadeOf fit' entries
  | [], _ => rfl
  | (.str key, value) :: rest, hentries => by
      rw [entriesMadeOf, Bool.and_eq_true] at hentries ⊢
      exact ⟨isMadeOf_mono h value hentries.1, entriesMadeOf_mono h rest hentries.2⟩

end

end

/-! ## Writing -/

/-- A value that has a text: no integer in it is too long. -/
def IsWritable (v : Value) : Prop :=
  v.isMadeOf fun n => (Decimal.writeInteger? n).isSome

mutual

theorem isSome_jsonChars? : (v : Value) → v.IsWritable → (jsonChars? v).isSome
  | .null, _ | .bool _, _ | .float _, _ | .str _, _ => rfl
  | .int _, hn => hn
  | .list items, hitems => by
      rw [jsonChars?, Option.isSome_map]
      exact isSome_jsonItems? items hitems
  | .dict entries, hentries => by
      rw [jsonChars?, Option.isSome_map]
      exact isSome_jsonEntries? entries hentries

theorem isSome_jsonItems? : (items : List Value) → (Value.list items).IsWritable →
    (jsonItems? items).isSome
  | [], _ => rfl
  | item :: rest, hitems => by
      rw [IsWritable, isMadeOf, areMadeOf, Bool.and_eq_true] at hitems
      obtain ⟨text, htext⟩ := Option.isSome_iff_exists.1 (isSome_jsonChars? item hitems.1)
      obtain ⟨texts, htexts⟩ := Option.isSome_iff_exists.1 (isSome_jsonItems? rest hitems.2)
      rw [jsonItems?, htext, htexts]
      rfl

theorem isSome_jsonEntries? : (entries : List (Value × Value)) → (Value.dict entries).IsWritable →
    (jsonEntries? entries).isSome
  | [], _ => rfl
  | (.str key, value) :: rest, hentries => by
      rw [IsWritable, isMadeOf, entriesMadeOf, Bool.and_eq_true] at hentries
      obtain ⟨text, htext⟩ := Option.isSome_iff_exists.1 (isSome_jsonChars? value hentries.1)
      obtain ⟨texts, htexts⟩ := Option.isSome_iff_exists.1 (isSome_jsonEntries? rest hentries.2)
      rw [jsonEntries?, htext, htexts]
      rfl

end

/-- Writing a value that has a text does not fail. -/
theorem exists_toText {v : Value} (h : v.IsWritable) : ∃ text, v.toText = .ok text := by
  have hjson := isSome_jsonChars? v h
  cases v with
  | null | bool b | str text | float x => exact ⟨_, rfl⟩
  | int n =>
      obtain ⟨digits, hdigits⟩ := Option.isSome_iff_exists.1 h
      change ∃ text, literal (.int n) = .ok text
      rw [literal, literalChars, hdigits]
      exact ⟨_, rfl⟩
  | list items | dict entries =>
      obtain ⟨chars, hchars⟩ := Option.isSome_iff_exists.1 hjson
      rw [toText, hchars]
      exact ⟨_, rfl⟩
  | bytes content | tuple items => cases h

/-! ## Reading -/

theorem natOfDigits_lt {digits : List Nat} (h : ∀ d ∈ digits, d < 10) :
    Text.natOfDigits digits < 10 ^ digits.length := by
  -- the fold goes on from any number, which its digits move to the left
  have hfrom (n : Nat) :
      digits.foldl (fun n d => 10 * n + d) n < (n + 1) * 10 ^ digits.length := by
    induction digits generalizing n with
    | nil => simp
    | cons d digits ih =>
        obtain ⟨hd, hdigits⟩ := List.forall_mem_cons.1 h
        calc digits.foldl (fun n d => 10 * n + d) (10 * n + d)
            < (10 * n + d + 1) * 10 ^ digits.length := ih hdigits _
          _ ≤ (n + 1) * 10 * 10 ^ digits.length := Nat.mul_le_mul_right _ (by omega)
          _ = (n + 1) * 10 ^ (d :: digits).length := by
              rw [List.length_cons, Nat.pow_succ, Nat.mul_assoc, Nat.mul_comm 10]
  simpa [Text.natOfDigits] using hfrom 0

/-- A number that is read from few enough digits can be written. -/
theorem isSome_writeInteger? {digits : List Char} (hdigits : ∀ c ∈ digits, c.isDigit)
    (hlength : digits.length ≤ digitLimit) {n : Int}
    (hn : n.natAbs = Decimal.natOfChars digits) : (Decimal.writeInteger? n).isSome := by
  have hvalues : ∀ d ∈ digits.map fun c => c.toNat - 48, d < 10 := by
    intro d hd
    obtain ⟨c, hc, rfl⟩ := List.mem_map.1 hd
    have hc := hdigits c hc
    simp only [Char.isDigit, Bool.and_eq_true, decide_eq_true_eq, UInt32.le_iff_toNat_le] at hc
    have hval : c.toNat = c.val.toNat := rfl
    have h9 : '9'.val.toNat = 57 := rfl
    omega
  have hlt := natOfDigits_lt hvalues
  rw [List.length_map] at hlt
  have hshort : (Nat.toDigits 10 n.natAbs).length ≤ digitLimit := by
    rw [Nat.length_toDigits_le_iff (by decide) (by decide), hn]
    exact Nat.lt_of_lt_of_le hlt (Nat.pow_le_pow_right (by decide) hlength)
  rw [Decimal.writeInteger?]
  simp [hshort]

theorem isDigit_of_wholePart {s whole rest : List Char} (h : wholePart s = some (whole, rest)) :
    ∀ c ∈ whole, c.isDigit := by
  unfold wholePart at h
  split at h
  · cases h
  · next c s =>
      split at h
      · cases h
        exact List.forall_mem_singleton.2 rfl
      · split at h
        · next hc =>
            cases h
            exact List.forall_mem_cons.2 ⟨hc, fun d hd => List.mem_takeWhile_imp hd⟩
        · cases h

theorem isWritable_readNumber {s rest : List Char} {v : Value}
    (h : readNumber s = some (v, rest)) : v.IsWritable := by
  simp only [readNumber, Option.bind_eq_bind, Option.bind_eq_some_iff, Prod.exists,
    Option.pure_def, Option.some.injEq, Prod.mk.injEq] at h
  obtain ⟨whole, r, hwhole, value, hvalue, rfl, -⟩ := h
  unfold numberOf at hvalue
  split at hvalue
  · dsimp only at hvalue
    split at hvalue
    · next hlength =>
        cases hvalue
        refine isSome_writeInteger? (isDigit_of_wholePart hwhole) hlength ?_
        split
        · exact Int.natAbs_neg _
        · rfl
    · cases hvalue
  · cases hvalue
    rfl

theorem isWritable_readNamed {s rest : List Char} {v : Value}
    (h : readNamed s = some (v, rest)) : v.IsWritable := by
  obtain ⟨⟨name, value⟩, hmem, hread⟩ := List.exists_of_findSome?_eq_some h
  simp only [Option.map_eq_some_iff, Prod.mk.injEq] at hread
  obtain ⟨after, -, rfl, -⟩ := hread
  simp only [namedValues, List.mem_cons, Prod.mk.injEq, List.not_mem_nil, or_false] at hmem
  rcases hmem with ⟨_, rfl⟩ | ⟨_, rfl⟩ | ⟨_, rfl⟩ | ⟨_, rfl⟩ | ⟨_, rfl⟩ | ⟨_, rfl⟩ <;> rfl

/-- The value of a token, if it is one, has a text. -/
def Token.IsWritable : Token → Prop
  | .atom v => v.IsWritable
  | _ => True

theorem Takes.isWritable {c : Char} {rest after : List Char} {t : Token}
    (h : Takes c rest t after) : t.IsWritable := by
  cases h with
  | punctuation ht =>
      unfold punctuation? at ht
      split_ifs at ht <;> cases ht <;> trivial
  | string => exact rfl
  | named h => exact isWritable_readNamed h
  | number h => exact isWritable_readNumber h
  | junk => trivial

theorem isWritable_tokens (s : List Char) : ∀ t ∈ tokens s, t.IsWritable := by
  fun_induction tokens s with
  | case1 => simp
  | case2 c rest hblank ih => exact ih
  | case3 c rest hblank ih => exact List.forall_mem_cons.2 ⟨(nextToken_takes c rest).isWritable, ih⟩

/-- The contents of an open container have texts. -/
def Open.IsWritable : Open → Prop
  | .list items => (Value.list items).IsWritable
  | .dict entries _ => (Value.dict entries).IsWritable

/-- The value of a text that has been read to its end has a text. -/
def Expected.IsWritable : Expected → Prop
  | .nothing v => v.IsWritable
  | _ => True

/-- Whatever has been read so far has a text. -/
structure Reading.IsWritable (r : Reading) : Prop where
  opened : ∀ o ∈ r.opened, o.IsWritable
  expected : r.expected.IsWritable

theorem isWritable_putEntry {key : String} {v : Value} {entries : List (Value × Value)}
    (hv : v.IsWritable) (h : (Value.dict entries).IsWritable) :
    (Value.dict (putEntry (.str key) v entries)).IsWritable := by
  rw [IsWritable, isMadeOf, entriesMadeOf_iff] at h ⊢
  induction entries with
  | nil =>
      rw [IsWritable] at hv
      simpa [putEntry] using hv
  | cons e rest ih =>
      obtain ⟨k, old⟩ := e
      obtain ⟨hhead, hrest⟩ := List.forall_mem_cons.1 h
      rw [putEntry]
      split
      · exact List.forall_mem_cons.2 ⟨⟨hhead.1, hv⟩, hrest⟩
      · exact List.forall_mem_cons.2 ⟨hhead, ih hrest⟩

theorem isWritable_complete {v : Value} {opened : List Open} (hv : v.IsWritable)
    (h : ∀ o ∈ opened, o.IsWritable) : (Reading.complete v opened).IsWritable := by
  cases opened with
  | nil => exact ⟨h, hv⟩
  | cons o outer =>
      obtain ⟨ho, houter⟩ := List.forall_mem_cons.1 h
      cases o with
      | list items =>
          refine ⟨List.forall_mem_cons.2 ⟨?_, houter⟩, trivial⟩
          rw [Open.IsWritable, Value.IsWritable, isMadeOf, areMadeOf, Bool.and_eq_true]
          exact ⟨hv, ho⟩
      | dict entries key =>
          exact ⟨List.forall_mem_cons.2 ⟨isWritable_putEntry hv ho, houter⟩, trivial⟩

theorem isWritable_reverse {items : List Value} (h : (Value.list items).IsWritable) :
    (Value.list items.reverse).IsWritable := by
  rw [IsWritable, isMadeOf, areMadeOf_iff] at h ⊢
  exact fun item hitem => h item (List.mem_reverse.1 hitem)

/-- What one token adds has a text, if the value of the token has one. -/
theorem Steps.isWritable {r next : Reading} {t : Token} (h : Steps r t next) (hr : r.IsWritable)
    (ht : t.IsWritable) : next.IsWritable := by
  have hopened := hr.opened
  cases h with
  | atom v => exact isWritable_complete ht hopened
  | enter h => cases h <;> exact ⟨List.forall_mem_cons.2 ⟨rfl, hopened⟩, trivial⟩
  | closeList =>
      obtain ⟨hitems, houter⟩ := List.forall_mem_cons.1 hopened
      exact isWritable_complete (isWritable_reverse hitems) houter
  | closeDict =>
      obtain ⟨hentries, houter⟩ := List.forall_mem_cons.1 hopened
      exact isWritable_complete hentries houter
  | key key =>
      obtain ⟨hentries, houter⟩ := List.forall_mem_cons.1 hopened
      exact ⟨List.forall_mem_cons.2 ⟨hentries, houter⟩, trivial⟩
  | colon | nextItem | nextEntry => exact ⟨hopened, trivial⟩

theorem isWritable_run {ts : List Token} {r last : Reading} (h : r.run ts = .ok last)
    (hr : r.IsWritable) (hts : ∀ t ∈ ts, t.IsWritable) : last.IsWritable := by
  induction ts generalizing r with
  | nil =>
      cases h
      exact hr
  | cons t ts ih =>
      obtain ⟨ht, hts⟩ := List.forall_mem_cons.1 hts
      rw [Reading.run] at h
      cases hstep : r.step t with
      | error f =>
          rw [hstep] at h
          cases h
      | ok next =>
          rw [hstep] at h
          exact ih h ((steps_of_step hstep).isWritable hr ht) hts

/-- Whatever is read has a text. -/
theorem isWritable_readJson {s : List Char} {v : Value} (h : readJson s = .ok v) :
    v.IsWritable := by
  obtain ⟨opened, hrun⟩ := run_of_readJson h
  have hstart : Reading.IsWritable ⟨[], .value false⟩ := ⟨List.forall_mem_nil _, trivial⟩
  exact (isWritable_run hrun hstart (isWritable_tokens s)).expected

theorem isWritable_decodeJson {v w : Value} (h : v.decodeJson = .ok w) (hv : v.IsWritable) :
    w.IsWritable := by
  unfold decodeJson at h
  split at h
  · split at h
    · split at h
      · next decoded hread =>
          cases h
          exact isWritable_readJson hread
      · cases h
        exact hv
      · cases h
    · cases h
      exact hv
  · cases h
    exact hv

end AgentScript.Value
