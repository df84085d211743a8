import AgentScript.Proofs.Value.JsonToken
import AgentScript.Value.JsonReader

set_option autoImplicit false

/-! # Structured text and back

A value that is made of texts, truth values, nulls, integers, lists and dictionaries is read back
from its structured text (`readJson_jsonChars?`). The reader keeps the containers that are still
open, so the statement that goes through the recursion of the writer is about any open containers
and any further text: reading the text of a value amounts to completing the value (`ReadsAs`). -/

namespace AgentScript.Value

/-! ## Plain values -/

mutual

/-- Whether a value is made of texts, truth values, nulls, integers that are not too long, lists,
    and dictionaries that have texts for keys and none of them twice. -/
def isPlain : Value → Bool
  | .null | .bool _ | .str _ => true
  | .int n => (Nat.toDigits 10 n.natAbs).length ≤ digitLimit
  | .list items => arePlain items
  | .dict entries => arePlainEntries entries
  | .float _ | .bytes _ | .tuple _ => false

/-- Whether all values of a list are plain. -/
def arePlain : List Value → Bool
  | [] => true
  | item :: rest => item.isPlain && arePlain rest

/-- Whether the entries of a dictionary are plain, and their keys texts that differ. -/
def arePlainEntries : List (Value × Value) → Bool
  | [] => true
  | (.str key, value) :: rest =>
    value.isPlain && rest.all (fun e => !sameKey (.str key) e.1) && arePlainEntries rest
  | _ :: _ => false

end

mutual

/-- How deep the lists and dictionaries of a value are nested. -/
def nesting : Value → Nat
  | .list items => nestingOfItems items + 1
  | .dict entries => nestingOfEntries entries + 1
  | _ => 0

/-- How deep the values of a list are nested. -/
def nestingOfItems : List Value → Nat
  | [] => 0
  | item :: rest => max item.nesting (nestingOfItems rest)

/-- How deep the values of a dictionary are nested. -/
def nestingOfEntries : List (Value × Value) → Nat
  | [] => 0
  | (_, value) :: rest => max value.nesting (nestingOfEntries rest)

end

/-! ## Reading what is written -/

theorem Reading.run_cons {r next : Reading} {t : Token} (h : r.step t = .ok next)
    (rest : List Token) : r.run (t :: rest) = next.run rest := by
  rw [run, h]
  rfl

/-- A text reads as a value: whatever is open and whatever follows, as long as nothing is nested too
    deep, reading it amounts to completing the value. -/
def ReadsAs (text : List Char) (v : Value) : Prop :=
  ∀ (opened : List Open) (mayClose : Bool) (rest : List Char), EndsValue rest →
    opened.length + v.nesting ≤ nestingLimit →
      Reading.run ⟨opened, .value mayClose⟩ (tokens (text ++ rest))
        = (Reading.complete v opened).run (tokens rest)

/-- Texts with commas between them read as the further items of a list that is open, if there are
    any. -/
structure ItemsReadAs (texts : List (List Char)) (items : List Value) : Prop where
  length : texts.length = items.length
  reads : items ≠ [] →
    ∀ (done : List Value) (opened : List Open) (mayClose : Bool) (rest : List Char),
      opened.length + 1 + nestingOfItems items ≤ nestingLimit →
        Reading.run ⟨.list done :: opened, .value mayClose⟩
            (tokens (commaSeparated texts ++ ']' :: rest))
          = (Reading.complete (.list (done.reverse ++ items)) opened).run (tokens rest)

/-- Texts with commas between them read as the further entries of a dictionary that is open, if
    there are any. -/
structure EntriesReadAs (texts : List (List Char)) (entries : List (Value × Value)) : Prop where
  length : texts.length = entries.length
  reads : entries ≠ [] →
    ∀ (done : List (Value × Value)) (last : String) (opened : List Open) (mayClose : Bool)
      (rest : List Char), (∀ e ∈ done, ∀ e' ∈ entries, sameKey e.1 e'.1 = false) →
        opened.length + 1 + nestingOfEntries entries ≤ nestingLimit →
          Reading.run ⟨.dict done last :: opened, .key mayClose⟩
              (tokens (commaSeparated texts ++ '\x7d' :: rest))
            = (Reading.complete (.dict (done ++ entries)) opened).run (tokens rest)

theorem commaSeparated_cons_cons (text next : List Char) (more : List (List Char)) :
    commaSeparated (text :: next :: more)
      = text ++ ", ".toList ++ commaSeparated (next :: more) := by
  rw [commaSeparated]
  exact List.cons_ne_nil next more

/-- A value that is read from one token reads as itself. -/
theorem readsAs_of_atom {text : List Char} {v : Value}
    (h : ∀ rest, EndsValue rest → tokens (text ++ rest) = .atom v :: tokens rest) :
    ReadsAs text v := by
  intro opened mayClose rest hrest _
  rw [h rest hrest, Reading.run_cons rfl]

theorem enter_array {opened : List Open} (h : opened.length < nestingLimit) :
    Reading.enter opened .array = .ok ⟨.list [] :: opened, .value true⟩ := by
  rw [Reading.enter, if_neg (by omega)]

theorem enter_object {opened : List Open} (h : opened.length < nestingLimit) :
    Reading.enter opened .object = .ok ⟨.dict [] "" :: opened, .key true⟩ := by
  rw [Reading.enter, if_neg (by omega)]

/-- A list reads as itself if its items do. -/
theorem readsAs_list {texts : List (List Char)} {items : List Value}
    (h : ItemsReadAs texts items) :
    ReadsAs ('[' :: commaSeparated texts ++ [']']) (.list items) := by
  intro opened mayClose rest hrest hdepth
  rw [nesting] at hdepth
  have hroom : opened.length < nestingLimit := by omega
  have hopen : Reading.step ⟨opened, .value mayClose⟩ .openList
      = .ok ⟨.list [] :: opened, .value true⟩ := enter_array hroom
  have htext : '[' :: commaSeparated texts ++ [']'] ++ rest
      = '[' :: (commaSeparated texts ++ ']' :: rest) := by simp
  rw [htext, tokens_punctuation rfl rfl, Reading.run_cons hopen]
  by_cases hitems : items = []
  · -- the bracket that was just opened closes again
    subst hitems
    rw [List.eq_nil_of_length_eq_zero h.length, commaSeparated, List.nil_append,
      tokens_punctuation rfl rfl]
    exact Reading.run_cons rfl _
  · rw [h.reads hitems [] opened true rest (by omega)]
    rfl

/-- A dictionary reads as itself if its entries do. -/
theorem readsAs_dict {texts : List (List Char)} {entries : List (Value × Value)}
    (h : EntriesReadAs texts entries) :
    ReadsAs ('\x7b' :: commaSeparated texts ++ ['\x7d']) (.dict entries) := by
  intro opened mayClose rest hrest hdepth
  rw [nesting] at hdepth
  have hroom : opened.length < nestingLimit := by omega
  have hopen : Reading.step ⟨opened, .value mayClose⟩ .openDict
      = .ok ⟨.dict [] "" :: opened, .key true⟩ := enter_object hroom
  have htext : '\x7b' :: commaSeparated texts ++ ['\x7d'] ++ rest
      = '\x7b' :: (commaSeparated texts ++ '\x7d' :: rest) := by simp
  rw [htext, tokens_punctuation rfl rfl, Reading.run_cons hopen]
  by_cases hentries : entries = []
  · subst hentries
    rw [List.eq_nil_of_length_eq_zero h.length, commaSeparated, List.nil_append,
      tokens_punctuation rfl rfl]
    exact Reading.run_cons rfl _
  · rw [h.reads hentries [] "" opened true rest (List.forall_mem_nil _) (by omega)]
    rfl

/-- Items read as themselves if the first one and the others do. -/
theorem ItemsReadAs.cons {text : List Char} {texts : List (List Char)} {item : Value}
    {items : List Value} (hitem : ReadsAs text item) (hitems : ItemsReadAs texts items) :
    ItemsReadAs (text :: texts) (item :: items) := by
  refine ⟨congrArg (· + 1) hitems.length, ?_⟩
  intro _ done opened mayClose rest hdepth
  rw [nestingOfItems] at hdepth
  have hroom : (Open.list done :: opened).length + item.nesting ≤ nestingLimit := by
    rw [List.length_cons]
    omega
  have hends {c : Char} (hc : c = ',' ∨ c = ']' ∨ c = '\x7d') (s : List Char) :
      EndsValue (c :: s) := endsValue_cons hc s
  cases texts with
  | nil =>
      -- the last item: the list closes
      obtain rfl : items = [] := List.eq_nil_of_length_eq_zero hitems.length.symm
      rw [commaSeparated, hitem _ _ _ (hends (by decide) rest) hroom, tokens_punctuation rfl rfl]
      refine (Reading.run_cons rfl _).trans ?_
      rw [List.reverse_cons]
  | cons next more =>
      -- a comma, and the other items go on from a longer list
      have hmore : items ≠ [] := by
        rintro rfl
        cases hitems.length
      have htext : commaSeparated (text :: next :: more) ++ ']' :: rest
          = text ++ ',' :: ' ' :: (commaSeparated (next :: more) ++ ']' :: rest) := by
        simp [commaSeparated_cons_cons]
      have hcomma : Reading.step ⟨.list (item :: done) :: opened, .separator⟩ .comma
          = .ok ⟨.list (item :: done) :: opened, .value false⟩ := rfl
      rw [htext, hitem _ _ _ (hends (by decide) _) hroom, tokens_punctuation rfl rfl, tokens_blank,
        Reading.complete, Reading.run_cons hcomma, hitems.reads hmore _ _ _ _ (by omega),
        List.reverse_cons, List.append_assoc, List.singleton_append]

theorem putEntry_of_new {key v : Value} {entries : List (Value × Value)}
    (h : ∀ e ∈ entries, sameKey e.1 key = false) :
    putEntry key v entries = entries ++ [(key, v)] := by
  induction entries with
  | nil => rfl
  | cons e rest ih =>
      obtain ⟨k, old⟩ := e
      have hk : sameKey k key = false := h (k, old) List.mem_cons_self
      rw [putEntry, if_neg (by rw [hk]; exact Bool.false_ne_true),
        ih fun e he => h e (List.mem_cons_of_mem _ he), List.cons_append]

/-- Entries read as themselves if the value of the first one and the other entries do. -/
theorem EntriesReadAs.cons {key : String} {text : List Char} {texts : List (List Char)} {v : Value}
    {entries : List (Value × Value)} (hv : ReadsAs text v)
    (hnew : ∀ e ∈ entries, sameKey (.str key) e.1 = false)
    (hentries : EntriesReadAs texts entries) :
    EntriesReadAs ((jsonString key.toList ++ ": ".toList ++ text) :: texts)
      ((.str key, v) :: entries) := by
  refine ⟨congrArg (· + 1) hentries.length, ?_⟩
  intro _ done last opened mayClose rest hfresh hdepth
  rw [nestingOfEntries] at hdepth
  have hroom : (Open.dict done key :: opened).length + v.nesting ≤ nestingLimit := by
    rw [List.length_cons]
    omega
  have hends {c : Char} (hc : c = ',' ∨ c = ']' ∨ c = '\x7d') (s : List Char) :
      EndsValue (c :: s) := endsValue_cons hc s
  have hput : putEntry (.str key) v done = done ++ [(.str key, v)] :=
    putEntry_of_new fun e he => hfresh e he _ List.mem_cons_self
  -- the key and the colon are read before the value
  have hentry (s : List Char) : Reading.run ⟨.dict done last :: opened, .key mayClose⟩
        (tokens (jsonString key.toList ++ ": ".toList ++ text ++ s))
      = Reading.run ⟨.dict done key :: opened, .value false⟩ (tokens (text ++ s)) := by
    have htext : jsonString key.toList ++ ": ".toList ++ text ++ s
        = jsonString key.toList ++ ':' :: ' ' :: (text ++ s) := by simp
    rw [htext, tokens_jsonString, String.ofList_toList, tokens_punctuation rfl rfl, tokens_blank]
    exact (Reading.run_cons rfl _).trans (Reading.run_cons rfl _)
  cases texts with
  | nil =>
      obtain rfl : entries = [] := List.eq_nil_of_length_eq_zero hentries.length.symm
      rw [commaSeparated, hentry, hv _ _ _ (hends (by decide) rest) hroom,
        tokens_punctuation rfl rfl, Reading.complete, hput]
      exact Reading.run_cons rfl _
  | cons next more =>
      have hmore : entries ≠ [] := by
        rintro rfl
        cases hentries.length
      have htext : commaSeparated ((jsonString key.toList ++ ": ".toList ++ text) :: next :: more)
            ++ '\x7d' :: rest
          = jsonString key.toList ++ ": ".toList ++ text
            ++ ',' :: ' ' :: (commaSeparated (next :: more) ++ '\x7d' :: rest) := by
        simp [commaSeparated_cons_cons]
      have hcomma : Reading.step ⟨.dict (done ++ [(.str key, v)]) key :: opened, .separator⟩ .comma
          = .ok ⟨.dict (done ++ [(.str key, v)]) key :: opened, .key false⟩ := rfl
      -- the other keys differ from those of all entries so far
      have hfresh' : ∀ e ∈ done ++ [(.str key, v)], ∀ e' ∈ entries, sameKey e.1 e'.1 = false := by
        intro e he e' he'
        rcases List.mem_append.1 he with he | he
        · exact hfresh e he e' (List.mem_cons_of_mem _ he')
        · rw [List.mem_singleton.1 he]
          exact hnew e' he'
      rw [htext, hentry, hv _ _ _ (hends (by decide) _) hroom, tokens_punctuation rfl rfl,
        tokens_blank, Reading.complete, hput, Reading.run_cons hcomma,
        hentries.reads hmore _ _ _ _ _ hfresh' (by omega), List.append_assoc,
        List.singleton_append]

/-! ## Plain values read as themselves -/

mutual

/-- A plain value has a text, and the text reads as the value. -/
theorem readsAs_jsonChars? : (v : Value) → v.isPlain →
    ∃ text, jsonChars? v = some text ∧ ReadsAs text v
  | .null, _ => ⟨_, rfl, readsAs_of_atom fun rest _ => tokens_null rest⟩
  | .bool b, _ => ⟨_, rfl, readsAs_of_atom fun rest _ => tokens_bool b rest⟩
  | .str text, _ => by
      refine ⟨_, rfl, readsAs_of_atom fun rest _ => ?_⟩
      rw [tokens_jsonString, String.ofList_toList]
  | .int n, h => by
      have hlimit : (Nat.toDigits 10 n.natAbs).length ≤ digitLimit := of_decide_eq_true h
      have hwrite : Decimal.writeInteger? n = some _ := if_pos hlimit
      exact ⟨_, hwrite, readsAs_of_atom fun rest hrest => tokens_writeInteger? hwrite hrest⟩
  | .list items, h => by
      obtain ⟨texts, hwrite, hreads⟩ := itemsReadAs_jsonItems? items h
      exact ⟨_, by rw [jsonChars?, hwrite]; rfl, readsAs_list hreads⟩
  | .dict entries, h => by
      obtain ⟨texts, hwrite, hreads⟩ := entriesReadAs_jsonEntries? entries h
      exact ⟨_, by rw [jsonChars?, hwrite]; rfl, readsAs_dict hreads⟩

theorem itemsReadAs_jsonItems? : (items : List Value) → arePlain items →
    ∃ texts, jsonItems? items = some texts ∧ ItemsReadAs texts items
  | [], _ => ⟨[], rfl, rfl, fun h => absurd rfl h⟩
  | item :: rest, h => by
      obtain ⟨hitem, hrest⟩ := Bool.and_eq_true_iff.1 h
      obtain ⟨text, hwrite, hreads⟩ := readsAs_jsonChars? item hitem
      obtain ⟨texts, hwrites, hread⟩ := itemsReadAs_jsonItems? rest hrest
      exact ⟨text :: texts, by rw [jsonItems?, hwrite, hwrites]; rfl, .cons hreads hread⟩

theorem entriesReadAs_jsonEntries? : (entries : List (Value × Value)) → arePlainEntries entries →
    ∃ texts, jsonEntries? entries = some texts ∧ EntriesReadAs texts entries
  | [], _ => ⟨[], rfl, rfl, fun h => absurd rfl h⟩
  | (.str key, value) :: rest, h => by
      obtain ⟨h, hrest⟩ := Bool.and_eq_true_iff.1 h
      obtain ⟨hvalue, hnew⟩ := Bool.and_eq_true_iff.1 h
      obtain ⟨text, hwrite, hreads⟩ := readsAs_jsonChars? value hvalue
      obtain ⟨texts, hwrites, hread⟩ := entriesReadAs_jsonEntries? rest hrest
      refine ⟨_, by rw [jsonEntries?, jsonKey?, hwrite, hwrites]; rfl, .cons hreads ?_ hread⟩
      simpa using hnew

end

/-- A plain value is read from its text. -/
theorem readJson_jsonChars? {v : Value} (hv : v.isPlain) (hdepth : v.nesting ≤ nestingLimit) :
    ∃ text, jsonChars? v = some text ∧ readJson text = .ok v := by
  obtain ⟨text, hwrite, hreads⟩ := readsAs_jsonChars? v hv
  have hread := hreads [] false [] endsValue_nil (by rwa [List.length_nil, Nat.zero_add])
  rw [List.append_nil] at hread
  refine ⟨text, hwrite, ?_⟩
  rw [readJson, hread, tokens]
  rfl

/-- Whether a value is a list or a dictionary. -/
def isStructured : Value → Bool
  | .list _ | .dict _ => true
  | _ => false

/-- The text of a list or a dictionary looks structured. -/
theorem looksLikeJson_jsonChars? {v : Value} (hv : v.isStructured) {text : List Char}
    (h : jsonChars? v = some text) : looksLikeJson (.str (String.ofList text)) = true := by
  cases v with
  | list items =>
      rw [jsonChars?, Option.map_eq_some_iff] at h
      obtain ⟨texts, -, rfl⟩ := h
      simp [looksLikeJson]
  | dict entries =>
      rw [jsonChars?, Option.map_eq_some_iff] at h
      obtain ⟨texts, -, rfl⟩ := h
      simp [looksLikeJson]
  | _ => cases hv

theorem toText_of_jsonChars? {v : Value} (hv : v.isStructured) {text : List Char}
    (h : jsonChars? v = some text) : v.toText = .ok (String.ofList text) := by
  cases v with
  | list | dict => rw [toText, h]
  | _ => cases hv

/-- A list or a dictionary that is plain has a text, from which it is decoded. -/
theorem decodeJson_toText {v : Value} (hstructured : v.isStructured) (hplain : v.isPlain)
    (hdepth : v.nesting ≤ nestingLimit) :
    ∃ text, v.toText = .ok text ∧ (Value.str text).decodeJson = .ok v := by
  obtain ⟨text, hwrite, hread⟩ := readJson_jsonChars? hplain hdepth
  refine ⟨String.ofList text, toText_of_jsonChars? hstructured hwrite, ?_⟩
  rw [decodeJson, if_pos (looksLikeJson_jsonChars? hstructured hwrite), String.toList_ofList, hread]

end AgentScript.Value
