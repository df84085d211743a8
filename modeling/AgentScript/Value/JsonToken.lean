import AgentScript.Text.Search
import AgentScript.Value.Json

set_option autoImplicit false

/-! # The tokens of structured text

JSON text is first cut into tokens: brackets, separators and complete atoms. What cannot be read
becomes a junk token that ends the list, so that the reader meets it only when it gets there. -/

namespace AgentScript.Value

/-- A piece of JSON text. -/
inductive Token where
  | openList
  | closeList
  | openDict
  | closeDict
  | comma
  | colon
  | atom (value : Value)
  | junk

/-! ## Strings -/

/-- The characters up to the closing quote, escapes left as they are, and the rest after it. -/
def stringBody : List Char → Option (List Char × List Char)
  | [] => none
  | '"' :: rest => some ([], rest)
  | '\\' :: c :: rest => (stringBody rest).map fun (body, after) => ('\\' :: c :: body, after)
  | c :: rest => (stringBody rest).map fun (body, after) => (c :: body, after)

/-- The value of a hexadecimal digit. -/
def hexValue? (c : Char) : Option Nat :=
  if c.isDigit then some (c.toNat - 48)
  else if 'a' ≤ c && c ≤ 'f' then some (c.toNat - 87)
  else if 'A' ≤ c && c ≤ 'F' then some (c.toNat - 55)
  else none

/-- The code unit that four hexadecimal digits write. -/
def hexUnit? (a b c d : Char) : Option Nat := do
  return ((← hexValue? a) * 16 + (← hexValue? b)) * 256 + (← hexValue? c) * 16 + (← hexValue? d)

/-- The character that a one-letter escape stands for. -/
def namedEscape? (c : Char) : Option Char :=
  if c == '"' || c == '\\' || c == '/' then some c
  else if c == 'b' then some '\x08'
  else if c == 'f' then some '\x0c'
  else if c == 'n' then some '\n'
  else if c == 'r' then some '\r'
  else if c == 't' then some '\t'
  else none

/-- The code units of a string's body; control characters must be escaped. -/
def stringUnits : List Char → Option (List Nat)
  | [] => some []
  | ['\\'] => none
  | '\\' :: 'u' :: a :: b :: c :: d :: rest => do
    let unit ← hexUnit? a b c d
    let units ← stringUnits rest
    return unit :: units
  | '\\' :: c :: rest => do
    let plain ← namedEscape? c
    let units ← stringUnits rest
    return plain.toNat :: units
  | c :: rest => if c.toNat < 0x20 then none else (stringUnits rest).map (c.toNat :: ·)

/-- The first unit of a surrogate pair. -/
def isHighSurrogate (n : Nat) : Bool :=
  0xD800 ≤ n && n < 0xDC00

/-- The second unit of a surrogate pair. -/
def isLowSurrogate (n : Nat) : Bool :=
  0xDC00 ≤ n && n < 0xE000

/-- The character of a code unit of its own; half a pair stands for the replacement character. -/
def unitChar (n : Nat) : Char :=
  if isHighSurrogate n || isLowSurrogate n then '\uFFFD' else Char.ofNat n

/-- The characters that code units write, surrogate pairs joined. -/
def joinUnits : List Nat → List Char
  | [] => []
  | [n] => [unitChar n]
  | high :: low :: rest =>
    if isHighSurrogate high && isLowSurrogate low then
      Char.ofNat (0x10000 + (high - 0xD800) * 0x400 + (low - 0xDC00)) :: joinUnits rest
    else unitChar high :: joinUnits (low :: rest)

/-- The string whose opening quote has been read, and the rest after it. -/
def readString (s : List Char) : Option (String × List Char) := do
  let (body, rest) ← stringBody s
  let units ← stringUnits body
  return (String.ofList (joinUnits units), rest)

/-! ## Numbers -/

/-- The digits before the point: a lone zero, or any number of digits with no zero in front. -/
def wholePart : List Char → Option (List Char × List Char)
  | [] => none
  | c :: rest =>
    if c == '0' then some (['0'], rest)
    else if c.isDigit then
      some (c :: rest.takeWhile Char.isDigit, rest.dropWhile Char.isDigit)
    else none

/-- The digits after the point, if a point with digits follows. -/
def fractionPart (s : List Char) : Option (List Char) × List Char :=
  match s with
  | '.' :: rest =>
    let digits := rest.takeWhile Char.isDigit
    if digits.isEmpty then (none, s) else (some digits, rest.dropWhile Char.isDigit)
  | _ => (none, s)

/-- The exponent, if its mark with digits follows. -/
def exponentPart (s : List Char) : Option Int × List Char :=
  match s with
  | [] => (none, s)
  | mark :: rest =>
    if mark == 'e' || mark == 'E' then
      let (negative, tail) := Decimal.readSign rest
      let digits := tail.takeWhile Char.isDigit
      let size : Int := Decimal.natOfChars digits
      if digits.isEmpty then (none, s)
      else (some (if negative then -size else size), tail.dropWhile Char.isDigit)
    else (none, s)

/-- The number that parts of a numeral make: an integer if there is neither fraction nor exponent.
    An integer with too many digits cannot be read. -/
def numberOf (negative : Bool) (whole : List Char) (fraction : Option (List Char))
    (exponent : Option Int) : Option Value :=
  match fraction, exponent with
  | none, none =>
    let size : Int := Decimal.natOfChars whole
    if whole.length ≤ digitLimit then some (.int (if negative then -size else size)) else none
  | _, _ =>
    some (.float (Decimal.Numeral.mk negative whole (fraction.getD []) (exponent.getD 0)).toFloat)

/-- The number at the front of `s`. -/
def readNumber (s : List Char) : Option (Value × List Char) := do
  let negative := s.head? == some '-'
  let (whole, rest) ← wholePart (if negative then s.drop 1 else s)
  let (fraction, rest) := fractionPart rest
  let (exponent, rest) := exponentPart rest
  let value ← numberOf negative whole fraction exponent
  return (value, rest)

/-! ## Tokens -/

/-- The values with names of their own. -/
def namedValues : List (List Char × Value) :=
  [("null".toList, .null), ("true".toList, .bool true), ("false".toList, .bool false),
   ("NaN".toList, .float (0.0 / 0.0)), ("Infinity".toList, .float (1.0 / 0.0)),
   ("-Infinity".toList, .float (-1.0 / 0.0))]

/-- The named value at the front of `s`. -/
def readNamed (s : List Char) : Option (Value × List Char) :=
  namedValues.findSome? fun (name, value) =>
    (Text.matchText name s).map fun rest => (value, rest)

/-- The punctuation that a character is. -/
def punctuation? (c : Char) : Option Token :=
  if c == '[' then some .openList
  else if c == ']' then some .closeList
  else if c == '\x7b' then some .openDict
  else if c == '\x7d' then some .closeDict
  else if c == ',' then some .comma
  else if c == ':' then some .colon
  else none

/-- The blanks of JSON, fewer than those of scripts. -/
def isJsonBlank (c : Char) : Bool :=
  c == ' ' || c == '\t' || c == '\n' || c == '\r'

/-- The token at the front of a text that does not begin with a blank, and the rest. -/
def nextToken (c : Char) (rest : List Char) : Token × List Char :=
  match punctuation? c with
  | some t => (t, rest)
  | none =>
    let read :=
      if c == '"' then (readString rest).map fun (text, after) => (Value.str text, after)
      else (readNamed (c :: rest)).or (readNumber (c :: rest))
    match read with
    | some (value, after) => (.atom value, after)
    | none => (.junk, [])

/-! ## Every token takes something off the text -/

theorem length_stringBody {s body after : List Char} (h : stringBody s = some (body, after)) :
    after.length < s.length := by
  fun_induction stringBody s generalizing body after with
  | case1 => simp at h
  | case2 rest => simp_all
  | case3 c rest ih =>
    simp only [Option.map_eq_some_iff, Prod.exists, Prod.mk.injEq] at h
    obtain ⟨b, a, hs, -, rfl⟩ := h
    have := ih hs
    simp only [List.length_cons]
    omega
  | case4 c rest _ _ ih =>
    simp only [Option.map_eq_some_iff, Prod.exists, Prod.mk.injEq] at h
    obtain ⟨b, a, hs, -, rfl⟩ := h
    have := ih hs
    simp only [List.length_cons]
    omega

theorem length_matchText {word s rest : List Char} (h : Text.matchText word s = some rest) :
    rest.length + word.length = s.length := by
  induction word generalizing s with
  | nil => simp_all [Text.matchText]
  | cons w word ih =>
    cases s with
    | nil => simp [Text.matchText] at h
    | cons c s =>
      simp only [Text.matchText] at h
      split at h
      · have := ih h
        simp only [List.length_cons]
        omega
      · simp at h

theorem length_readNamed {s rest : List Char} {v : Value} (h : readNamed s = some (v, rest)) :
    rest.length < s.length := by
  obtain ⟨⟨name, value⟩, hmem, hread⟩ := List.exists_of_findSome?_eq_some h
  simp only [Option.map_eq_some_iff, Prod.mk.injEq] at hread
  obtain ⟨after, hm, -, rfl⟩ := hread
  have hlen := length_matchText hm
  have hpos : 0 < name.length := by
    simp only [namedValues, List.mem_cons, Prod.mk.injEq, List.not_mem_nil, or_false] at hmem
    rcases hmem with ⟨rfl, _⟩ | ⟨rfl, _⟩ | ⟨rfl, _⟩ | ⟨rfl, _⟩ | ⟨rfl, _⟩ | ⟨rfl, _⟩ <;> decide
  omega

theorem length_dropWhile_le {α : Type} (p : α → Bool) (s : List α) :
    (s.dropWhile p).length ≤ s.length :=
  (List.dropWhile_suffix p).length_le

theorem length_wholePart {s whole rest : List Char} (h : wholePart s = some (whole, rest)) :
    rest.length < s.length := by
  unfold wholePart at h
  split at h
  · simp at h
  · next c s =>
    have := length_dropWhile_le Char.isDigit s
    split at h
    · simp_all
    · split at h
      · simp only [Option.some.injEq, Prod.mk.injEq] at h
        obtain ⟨-, rfl⟩ := h
        simp only [List.length_cons]
        omega
      · simp at h

theorem length_fractionPart (s : List Char) : (fractionPart s).2.length ≤ s.length := by
  unfold fractionPart
  split
  · next rest =>
    have := length_dropWhile_le Char.isDigit rest
    simp only
    split
    · exact Nat.le_refl _
    · simp only [List.length_cons]
      omega
  · exact Nat.le_refl _

theorem length_readSign (s : List Char) : (Decimal.readSign s).2.length ≤ s.length := by
  unfold Decimal.readSign
  split <;> simp

theorem length_exponentPart (s : List Char) : (exponentPart s).2.length ≤ s.length := by
  unfold exponentPart
  split
  · exact Nat.le_refl _
  · next mark rest =>
    split
    · have h1 := length_readSign rest
      have h2 := length_dropWhile_le Char.isDigit (Decimal.readSign rest).2
      simp only
      split
      · exact Nat.le_refl _
      · simp only [List.length_cons]
        omega
    · exact Nat.le_refl _

theorem length_readNumber {s rest : List Char} {v : Value} (h : readNumber s = some (v, rest)) :
    rest.length < s.length := by
  simp only [readNumber, Option.bind_eq_bind, Option.bind_eq_some_iff, Prod.exists,
    Option.pure_def, Option.some.injEq, Prod.mk.injEq] at h
  obtain ⟨whole, r, hw, value, -, -, rfl⟩ := h
  have h1 := length_wholePart hw
  have h2 := length_fractionPart r
  have h3 := length_exponentPart (fractionPart r).2
  have h4 : (if s.head? == some '-' then s.drop 1 else s).length ≤ s.length := by
    split <;> simp
  omega

theorem length_nextToken (c : Char) (rest : List Char) :
    (nextToken c rest).2.length ≤ rest.length := by
  unfold nextToken
  split
  · exact Nat.le_refl _
  · simp only
    split
    · next value after hread =>
      split at hread
      · simp only [readString, Option.bind_eq_bind, Option.map_eq_some_iff, Prod.exists,
          Prod.mk.injEq, Option.bind_eq_some_iff, Option.pure_def, Option.some.injEq] at hread
        obtain ⟨text, a, ⟨body, r, hb, units, -, -, rfl⟩, -, rfl⟩ := hread
        exact Nat.le_of_lt (length_stringBody hb)
      · rw [Option.or_eq_some_iff] at hread
        rcases hread with hread | ⟨-, hread⟩
        · exact Nat.le_of_lt_succ (length_readNamed hread)
        · exact Nat.le_of_lt_succ (length_readNumber hread)
    · simp

/-- The tokens of a text. -/
def tokens : List Char → List Token
  | [] => []
  | c :: rest =>
    if isJsonBlank c then tokens rest
    else (nextToken c rest).1 :: tokens (nextToken c rest).2
termination_by s => s.length
decreasing_by
  · simp
  · exact Nat.lt_succ_of_le (length_nextToken c rest)

end AgentScript.Value
