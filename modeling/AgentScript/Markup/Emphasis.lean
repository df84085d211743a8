import AgentScript.Markup.Inline
import AgentScript.Text.Word

set_option autoImplicit false

/-! # Emphasis

Asterisks and underscores emphasise what stands between them: one of them weakly, two strongly,
three in both ways. Several readings are tried in order at every mark; inside an emphasised text
only the later ones are tried. An underscore inside a word is no mark. -/

namespace AgentScript.Markup

/-! ## Lone marks -/

/-- Protect the marks that stand alone between blanks; they emphasise nothing. -/
def protectLone (marks : List Char) : Nat → Bool → List Inline → List Inline
  | 0, _, s => s
  | _, _, [] => []
  | fuel + 1, afterBlank, i :: rest =>
    let run := (i :: rest).takeWhile fun j => j.char? == i.char?
    let after := (i :: rest).drop run.length
    let alone := afterBlank && run.length ≤ 3 && after.head?.all Inline.isBlank
    if alone && i.char?.any marks.contains then
      (Inline.plainTextOf run).map .literal ++ protectLone marks fuel false after
    else i :: protectLone marks fuel i.isBlank rest

/-! ## Readings of marks -/

/-- How the parts of an emphasised text are put together. -/
inductive EmphasisShape where
  | weak
  | strong
  /-- Strong emphasis that begins with weak emphasis. -/
  | strongOverWeak
  /-- Weak emphasis that begins with strong emphasis. -/
  | weakOverStrong
  /-- Strong emphasis that ends with weak emphasis. -/
  | strongEndingWeak

/-- An emphasised text: its parts, how they are put together, and what follows it. -/
structure Emphasised where
  shape : EmphasisShape
  first : List Inline
  second : List Inline := []
  rest : List Inline

/-- A reading of the marks at the front of a text, given the piece before them. -/
abbrev EmphasisRule := Option Inline → List Inline → Option Emphasised

/-- What follows `n` marks. -/
def afterMarks (mark : Char) : Nat → List Inline → Option (List Inline)
  | 0, s => some s
  | _, [] => none
  | n + 1, i :: rest => if i.isChar mark then afterMarks mark n rest else none

/-- Whether another mark is next. -/
def markNext (mark : Char) (s : List Inline) : Bool :=
  s.head?.any (Inline.isChar mark)

/-- Whether a piece is a character of a word. -/
def inWord (i : Option Inline) : Bool :=
  (i.bind Inline.char?).any Text.isWordChar

/-- The shortest beginning after which `accept` finds an end; it is told the piece before the end.
    -/
def upTo (accept : Option Inline → List Inline → Option (List Inline)) (before : Option Inline) :
    List Inline → Option (List Inline × List Inline)
  | [] => (accept before []).map fun rest => ([], rest)
  | i :: rest =>
    match accept before (i :: rest) with
    | some rest => some ([], rest)
    | none => (upTo accept (some i) rest).map fun (content, rest) => (i :: content, rest)

/-- The shortest beginning of at least one piece after which `accept` finds an end. -/
def someUpTo (accept : Option Inline → List Inline → Option (List Inline)) :
    List Inline → Option (List Inline × List Inline)
  | [] => none
  | i :: rest => (upTo accept (some i) rest).map fun (content, rest) => (i :: content, rest)

/-- Three marks, of which `inner` close the first part and the others the whole. -/
def threefold (mark : Char) (inner : Nat) (shape : EmphasisShape) : EmphasisRule := fun _ s => do
  let s ← afterMarks mark 3 s
  let (first, s) ← someUpTo (fun _ => afterMarks mark inner) s
  let (second, rest) ← upTo (fun _ => afterMarks mark (3 - inner)) none s
  return { shape := shape, first := first, second := second, rest := rest }

/-- The readings of asterisks. -/
def asteriskRules : List EmphasisRule :=
  let mark := '*'
  [threefold mark 1 .strongOverWeak,
   threefold mark 2 .weakOverStrong,
   fun _ s => do
     let s ← afterMarks mark 2 s
     let first := s.takeWhile fun i => !i.isChar mark
     let s ← afterMarks mark 1 (s.drop first.length)
     if first.isEmpty || markNext mark s then none
     else
       let (second, rest) ← someUpTo (fun _ => afterMarks mark 3) s
       return { shape := .strongEndingWeak, first := first, second := second, rest := rest },
   fun _ s => do
     let (content, rest) ← someUpTo (fun _ => afterMarks mark 2) (← afterMarks mark 2 s)
     return { shape := .strong, first := content, rest := rest },
   fun _ s => do
     let s ← afterMarks mark 1 s
     let content := s.takeWhile fun i => !i.isChar mark
     if content.isEmpty then none
     else
       let rest ← afterMarks mark 1 (s.drop content.length)
       return { shape := .weak, first := content, rest := rest }]

/-- The readings of underscores. -/
def underscoreRules : List EmphasisRule :=
  let mark := '_'
  let closing (n : Nat) (before : Option Inline) (s : List Inline) : Option (List Inline) := do
    let rest ← afterMarks mark n s
    if before.any (Inline.isChar mark) || inWord rest.head? then none else some rest
  let single (n : Nat) (shape : EmphasisShape) : EmphasisRule := fun before s => do
    let s ← afterMarks mark n s
    if inWord before || markNext mark s then none
    else
      let (content, rest) ← someUpTo (closing n) s
      return { shape := shape, first := content, rest := rest }
  [threefold mark 1 .strongOverWeak,
   threefold mark 2 .weakOverStrong,
   fun before s => do
     let s ← afterMarks mark 2 s
     if inWord before || markNext mark s then none
     else
       let opening (before : Option Inline) (s : List Inline) : Option (List Inline) := do
         let rest ← afterMarks mark 1 s
         if inWord before || markNext mark rest then none else some rest
       let (first, s) ← someUpTo opening s
       let ending (_ : Option Inline) (s : List Inline) : Option (List Inline) := do
         let rest ← afterMarks mark 3 s
         if inWord rest.head? then none else some rest
       let (second, rest) ← someUpTo ending s
       return { shape := .strongEndingWeak, first := first, second := second, rest := rest },
   single 2 .strong,
   single 1 .weak]

/-! ## Emphasised texts inside of others -/

/-- An emphasised element with the text that follows it: first its own text, then the elements in
    it, each with the text after it. -/
inductive Emphasis where
  | mk (isStrong : Bool) (text : List Inline) (elements : List Emphasis) (tail : List Inline)

namespace Emphasis

mutual

/-- The element as a piece. -/
def piece : Emphasis → Inline
  | .mk isStrong text elements _ =>
    let content := text ++ piecesOf elements
    if isStrong then .strong content else .emphasis content

/-- Elements with the texts after them as pieces. -/
def piecesOf : List Emphasis → List Inline
  | [] => []
  | .mk isStrong text elements tail :: rest =>
    let content := text ++ piecesOf elements
    (if isStrong then .strong content else .emphasis content) :: tail ++ piecesOf rest

end

/-- Change the element's own text and the text after it. -/
def mapTexts (onText onTail : List Inline → List Inline) : Emphasis → Emphasis
  | .mk isStrong text elements tail => .mk isStrong (onText text) elements (onTail tail)

/-- Change the text of the element and of the elements in it, and the texts after these. -/
def mapOuterTexts (onText onTail : List Inline → List Inline) : Emphasis → Emphasis
  | .mk isStrong text elements tail =>
    .mk isStrong (onText text) (elements.map (mapTexts onText onTail)) tail

end Emphasis

/-- A text with emphasised elements: the text before the first one, and the elements. -/
abbrev EmphasisParts := List Inline × List Emphasis

/-- Put the parts of an emphasised text together, each divided into parts by `divide`. -/
def Emphasised.build (divide : List Inline → EmphasisParts) (e : Emphasised) : Emphasis :=
  let (text, elements) := divide e.first
  let (text', elements') := divide e.second
  match e.shape with
  | .weak => .mk false text elements []
  | .strong => .mk true text elements []
  | .strongOverWeak => .mk true [] (.mk false text elements text' :: elements') []
  | .weakOverStrong => .mk false [] (.mk true text elements text' :: elements') []
  | .strongEndingWeak => .mk true text (elements ++ [.mk false text' elements' []]) []

/-- A reading of marks with the way to divide the text inside. -/
abbrev DividingRule := EmphasisRule × (List Inline → EmphasisParts)

/-- The emphasised text at the front, and the rules after the one that has read it. -/
def firstReading (before : Option Inline) (s : List Inline) :
    List DividingRule → Option (Emphasis × List Inline × List DividingRule)
  | [] => none
  | (rule, divide) :: rules =>
    match rule before s with
    | some e => some (e.build divide, e.rest, rules)
    | none => firstReading before s rules

/-- Divide a text into parts. After an emphasised text the `left` rules come first, then all. -/
def divideWith (rules : List DividingRule) :
    Nat → (left : List DividingRule) → (afresh : Bool) → Option Inline → List Inline → EmphasisParts
  | 0, _, _, _, s => (s, [])
  | _, _, _, _, [] => ([], [])
  | fuel + 1, left, afresh, before, i :: rest =>
    match firstReading before (i :: rest) left with
    | some (.mk isStrong text elements _, after, left) =>
      let last := ((i :: rest).take (rest.length + 1 - after.length)).getLast?
      let (tail, more) := divideWith rules fuel left false last after
      ([], .mk isStrong text elements tail :: more)
    | none =>
      if afresh then
        let (text, elements) := divideWith rules fuel rules true (some i) rest
        (i :: text, elements)
      else divideWith rules fuel rules true before (i :: rest)

/-- Rules, each with the way to divide the text inside: by the later rules. -/
def dividing : List EmphasisRule → List DividingRule
  | [] => []
  | rule :: rules =>
    let later := dividing rules
    (rule, fun s => divideWith later (2 * s.length) later true none s) :: later

/-- Find the emphasised texts that rules read, one after the other in the whole text. The texts
    inside are left to the `later` stages, the texts between elements inside are read again, too.
    -/
def emphasise (rules : List DividingRule) (later : List Inline → List Inline) :
    Nat → List Inline → List Inline
  | 0, s => s
  | fuel + 1, s =>
    let again (s : List Inline) : List Inline := later (emphasise rules later fuel s)
    let rule : Rule := fun before s =>
      (firstReading before s rules).map fun (e, rest, _) =>
        .found [(e.mapOuterTexts later again).piece] rest
    match firstFound rule (s.length + 1) none s with
    | some (before, pieces, after) => emphasise rules later fuel (before ++ pieces ++ after)
    | none => s

/-- The stage that finds the emphasised texts of some rules. -/
def Stage.emphasising (rules : List EmphasisRule) : Stage := fun later s =>
  emphasise (dividing rules) later s.length s

end AgentScript.Markup
