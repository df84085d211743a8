import AgentScript.Value.JsonReader

set_option autoImplicit false

/-! # What the reader can do

A text is read token by token, and the tokens are read off its front. What one token takes off
(`nextToken_takes`) and what the reader does with it (`steps_of_step`) are said here once, for every
property of what is read. -/

namespace AgentScript.Value

/-! ## Tokens -/

/-- The tokens that a text can begin with, and what is left of the text after them. -/
inductive Takes (c : Char) (rest : List Char) : Token → List Char → Prop
  | punctuation {t : Token} (ht : punctuation? c = some t) : Takes c rest t rest
  | string {text : String} {after : List Char} (h : readString rest = some (text, after)) :
      Takes c rest (.atom (.str text)) after
  | named {v : Value} {after : List Char} (h : readNamed (c :: rest) = some (v, after)) :
      Takes c rest (.atom v) after
  | number {v : Value} {after : List Char} (h : readNumber (c :: rest) = some (v, after)) :
      Takes c rest (.atom v) after
  | junk : Takes c rest .junk []

theorem nextToken_takes (c : Char) (rest : List Char) :
    Takes c rest (nextToken c rest).1 (nextToken c rest).2 := by
  unfold nextToken
  split
  · next t ht => exact .punctuation ht
  · dsimp only
    split
    · next value after hread =>
        split at hread
        · obtain ⟨⟨text, a⟩, hstring, heq⟩ := Option.map_eq_some_iff.1 hread
          cases heq
          exact .string hstring
        · rcases Option.or_eq_some_iff.1 hread with hnamed | ⟨-, hnumber⟩
          · exact .named hnamed
          · exact .number hnumber
    · exact .junk

/-! ## Steps -/

/-- The token that opens a container. -/
def openingToken : Container → Token
  | .array => .openList
  | .object => .openDict

/-- One more container is open, and there were not too many before. -/
inductive Enters (opened : List Open) : Container → Reading → Prop
  | list (h : opened.length < nestingLimit) :
      Enters opened .array ⟨.list [] :: opened, .value true⟩
  | dict (h : opened.length < nestingLimit) :
      Enters opened .object ⟨.dict [] "" :: opened, .key true⟩

/-- What a token does to what has been read. -/
inductive Steps : Reading → Token → Reading → Prop
  | atom {opened : List Open} {mayClose : Bool} (v : Value) :
      Steps ⟨opened, .value mayClose⟩ (.atom v) (.complete v opened)
  | enter {opened : List Open} {mayClose : Bool} {container : Container} {next : Reading}
      (h : Enters opened container next) :
      Steps ⟨opened, .value mayClose⟩ (openingToken container) next
  | closeList {items : List Value} {outer : List Open} {expected : Expected}
      (h : expected = .value true ∨ expected = .separator) :
      Steps ⟨.list items :: outer, expected⟩ .closeList (.complete (.list items.reverse) outer)
  | closeDict {entries : List (Value × Value)} {key : String} {outer : List Open}
      {expected : Expected} (h : expected = .key true ∨ expected = .separator) :
      Steps ⟨.dict entries key :: outer, expected⟩ .closeDict (.complete (.dict entries) outer)
  | key {entries : List (Value × Value)} {old : String} {outer : List Open} {mayClose : Bool}
      (key : String) :
      Steps ⟨.dict entries old :: outer, .key mayClose⟩ (.atom (.str key))
        ⟨.dict entries key :: outer, .colon⟩
  | colon {opened : List Open} : Steps ⟨opened, .colon⟩ .colon ⟨opened, .value false⟩
  | nextItem {items : List Value} {outer : List Open} :
      Steps ⟨.list items :: outer, .separator⟩ .comma ⟨.list items :: outer, .value false⟩
  | nextEntry {entries : List (Value × Value)} {key : String} {outer : List Open} :
      Steps ⟨.dict entries key :: outer, .separator⟩ .comma
        ⟨.dict entries key :: outer, .key false⟩

theorem enters_of_enter {opened : List Open} {container : Container} {r : Reading}
    (h : Reading.enter opened container = .ok r) : Enters opened container r := by
  unfold Reading.enter at h
  split at h
  · cases h
  · next hlimit =>
      cases container with
      | array =>
          cases h
          exact .list (Nat.lt_of_not_le hlimit)
      | object =>
          cases h
          exact .dict (Nat.lt_of_not_le hlimit)

theorem limit_le_of_enter {opened : List Open} {container : Container} {fault : ReadFault}
    (h : Reading.enter opened container = .error fault) : nestingLimit ≤ opened.length := by
  unfold Reading.enter at h
  split at h
  · assumption
  · cases container <;> cases h

theorem steps_of_step {r next : Reading} {t : Token} (h : r.step t = .ok next) :
    Steps r t next := by
  obtain ⟨opened, expected⟩ := r
  unfold Reading.step at h
  dsimp only at h
  split at h
  · cases h
    exact .atom _
  · exact .enter (enters_of_enter h)
  · exact .enter (enters_of_enter h)
  · cases h
    exact .closeList (.inl rfl)
  · cases h
    exact .key _
  · cases h
    exact .closeDict (.inl rfl)
  · cases h
    exact .colon
  · cases h
    exact .nextItem
  · cases h
    exact .closeList (.inr rfl)
  · cases h
    exact .nextEntry
  · cases h
    exact .closeDict (.inr rfl)
  · cases h

/-- Where too many containers are open, a token would have opened one more. -/
theorem tooDeep_of_step {r : Reading} {t : Token} {container : Container}
    (h : r.step t = .error (.tooDeep container)) :
    nestingLimit ≤ r.opened.length ∧ ∃ container, t = openingToken container := by
  obtain ⟨opened, expected⟩ := r
  unfold Reading.step at h
  dsimp only at h
  split at h
  case h_2 => exact ⟨limit_le_of_enter h, .array, rfl⟩
  case h_3 => exact ⟨limit_le_of_enter h, .object, rfl⟩
  all_goals cases h

/-! ## Whole texts -/

theorem run_of_readJson {s : List Char} {v : Value} (h : readJson s = .ok v) :
    ∃ opened, Reading.run ⟨[], .value false⟩ (tokens s) = .ok ⟨opened, .nothing v⟩ := by
  rw [readJson] at h
  cases hrun : Reading.run ⟨[], .value false⟩ (tokens s) with
  | error fault =>
      rw [hrun] at h
      cases h
  | ok last =>
      obtain ⟨opened, expected⟩ := last
      rw [hrun] at h
      dsimp only [bind, Except.bind] at h
      split at h
      · cases h
        exact ⟨opened, rfl⟩
      · cases h

theorem run_of_tooDeep {s : List Char} {container : Container}
    (h : readJson s = .error (.tooDeep container)) :
    Reading.run ⟨[], .value false⟩ (tokens s) = .error (.tooDeep container) := by
  rw [readJson] at h
  cases hrun : Reading.run ⟨[], .value false⟩ (tokens s) with
  | error fault =>
      rw [hrun] at h
      cases h
      rfl
  | ok last =>
      rw [hrun] at h
      dsimp only [bind, Except.bind] at h
      split at h <;> cases h

end AgentScript.Value
