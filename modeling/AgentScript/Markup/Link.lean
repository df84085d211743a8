import AgentScript.Markup.Inline

set_option autoImplicit false

/-! # Links and images

A link is a text in brackets with its destination after it: a target and a title in parentheses, or
the name of a reference in brackets. Of a name that is the link's own text the brackets may be empty
or missing. An exclamation mark in front makes an image of it. -/

namespace AgentScript.Markup

/-- The pieces up to the bracket that closes the one before them, and what follows it. -/
def bracketed : Nat → List Inline → Option (List Inline × List Inline)
  | _, [] => none
  | depth, i :: rest =>
    let more (depth : Nat) := (bracketed depth rest).map fun (text, rest) => (i :: text, rest)
    if i.isChar '[' then more (depth + 1)
    else if i.isChar ']' then
      match depth with
      | 0 => some ([], rest)
      | depth + 1 => more depth
    else more depth

/-! ## Destinations -/

/-- Where a link leads, under which title, and what follows it. -/
structure Destination where
  target : List Char
  title : Option (List Char) := none
  rest : List Inline

/-- The text of a target. -/
def targetText (s : List Inline) : List Char :=
  Text.stripChars (Inline.plainTextOf s)

/-- The text without a pair of quotes around it. -/
def dequote (s : List Char) : List Char :=
  let quotedBy (c : Char) : Bool := s.head? == some c && s.getLast? == some c
  if quotedBy '"' || quotedBy '\x27' then (s.drop 1).dropLast else s

/-- The text of a title, on one line. -/
def titleText (s : List Inline) : List Char :=
  let title := ((s.dropWhile Inline.isBlank).reverse.dropWhile Inline.isBlank).reverse
  (dequote (Inline.plainTextOf title)).map fun c => if Text.isBlank c then ' ' else c

/-- The pieces up to the quote or bracket `closing`, and what follows it. -/
def upToChar? (closing : Char) (s : List Inline) : Option (List Inline × List Inline) :=
  let before := s.takeWhile fun i => !i.isChar closing
  match s.drop before.length with
  | _ :: rest => some (before, rest)
  | [] => none

/-- A target in angle brackets, and a title in quotes after it. -/
def enclosed? : List Inline → Option Destination
  | .char '<' :: s =>
    let target := s.takeWhile fun i => !(i.isChar '<' || i.isChar '>')
    let closed (title : Option (List Inline)) (s : List Inline) : Option Destination :=
      match s.dropWhile Inline.isBlank with
      | .char ')' :: rest =>
        some { target := targetText target, title := title.map titleText, rest := rest }
      | _ => none
    match s.drop target.length with
    | .char '>' :: s =>
      match s.dropWhile Inline.isBlank with
      | .char quote :: after =>
        if quote == '"' || quote == '\x27' then
          (upToChar? quote after).bind fun (title, rest) => closed (some title) rest
        else closed none s
      | _ => none
    | _ => none
  | _ => none

/-- A quote in a destination: the character, where the text after it begins, and where the text
    before the last other one of its kind ends. -/
structure QuoteSpan where
  quote : Char
  start : Nat
  stop : Option Nat := none

/-- Where the reading of a destination has come to. The first quote begins a title, in which
    parentheses do not count but for the one that ends the destination; a quote of the other kind
    may begin the title, too. -/
structure DestinationScan where
  /-- How many parentheses are open. -/
  depth : Nat := 1
  /-- How many would be open if the first quote began no title, and where they are all closed. -/
  spare : Nat := 1
  fallback : Option Nat := none
  first : Option QuoteSpan := none
  second : Option QuoteSpan := none
  /-- The last character that is no space. -/
  last : Option Char := none

namespace DestinationScan

/-- The span that the last character read has closed. -/
def closedSpan? (scan : DestinationScan) : Option (QuoteSpan × Nat) :=
  let closed (span : Option QuoteSpan) : Option (QuoteSpan × Nat) := do
    let span ← span
    let stop ← span.stop
    if scan.last == some span.quote then some (span, stop) else none
  (closed scan.first).or (closed scan.second)

/-- Read a quote at a position. -/
def readQuote (quote : Char) (position : Nat) (scan : DestinationScan) : DestinationScan :=
  let begun : QuoteSpan := { quote := quote, start := position + 1 }
  match scan.first, scan.second with
  | none, _ => { scan with spare := scan.depth, depth := 1, first := some begun }
  | some span, second =>
    if quote == span.quote then { scan with first := some { span with stop := some position } }
    else { scan with second := some (match second with
      | none => begun
      | some span => { span with stop := some position }) }

/-- Read a piece at a position. -/
def read (i : Inline) (position : Nat) (scan : DestinationScan) : DestinationScan :=
  let inTitle := scan.first.isSome
  let scan' :=
    if i.isChar '(' then
      if inTitle then { scan with spare := scan.spare - 1 }
      else { scan with depth := scan.depth + 1 }
    else if i.isChar ')' then
      if scan.closedSpan?.isSome then { scan with depth := 0 }
      else if !inTitle then { scan with depth := scan.depth - 1 }
      else
        { scan with
          spare := scan.spare - 1
          fallback := if scan.spare == 1 then some position else scan.fallback }
    else if i.isChar '"' then scan.readQuote '"' position
    else if i.isChar '\x27' then scan.readQuote '\x27' position
    else scan
  if scan'.depth == 0 || i.isChar ' ' then scan' else { scan' with last := i.char? }

/-- The destination that pieces begin with, from a position on; `all` are the pieces from the first
    position on. -/
def destination? (all : List Inline) :
    List Inline → Nat → DestinationScan → Option Destination
  | [], _, scan =>
    if scan.spare != 0 then none
    else
      match scan.fallback with
      | some stop => some { target := targetText (all.take stop), rest := all.drop (stop + 1) }
      | none =>
        some { target := targetText all.dropLast.dropLast, rest := all.drop (all.length - 1) }
  | i :: rest, position, scan =>
    let scan' := scan.read i position
    if scan'.depth == 0 then
      match scan.closedSpan? with
      | some (span, stop) =>
        some
          { target := targetText (all.take (span.start - 1))
            title := some (titleText ((all.take stop).drop span.start))
            rest := rest }
      | none => some { target := targetText (all.take position), rest := rest }
    else destination? all rest (position + 1) scan'

end DestinationScan

/-- The destination in parentheses after a link's text. -/
def destination? : List Inline → Option Destination
  | .char '(' :: s =>
    let s := s.dropWhile Inline.isBlank
    (enclosed? s).or (DestinationScan.destination? s s 0 {})
  | _ => none

/-! ## Rules -/

/-- What follows the bracket that opens a link or an image. -/
def afterOpening? (isImage : Bool) (before : Option Inline) :
    List Inline → Option (List Inline)
  | .char '!' :: .char '[' :: rest => if isImage then some rest else none
  | .char '[' :: rest =>
    if isImage || before.any (Inline.isChar '!') then none else some rest
  | _ => none

/-- A link, or an image with the text as its alternative. -/
def linkOrImage (isImage : Bool) (later : List Inline → List Inline) (text : List Inline)
    (target : List Char) (title : Option (List Char)) : Inline :=
  if isImage then .image target (Inline.plainTextOf text) title
  else .link target title (later text)

/-- Finds links or images with their destinations. -/
def linkRule (isImage : Bool) (later : List Inline → List Inline) : Rule := fun before s => do
  let (text, s) ← bracketed 0 (← afterOpening? isImage before s)
  let d ← destination? s
  return .found [linkOrImage isImage later text d.target d.title] d.rest

/-- The name in brackets after a link's text, and what follows it; without a name the text is the
    name. -/
def nameAfter? (text s : List Inline) : Option (List Inline × List Inline) :=
  let s := match s with
    | i :: rest => if i.isBlank then rest else s
    | [] => []
  match s with
  | .char '[' :: s =>
    (upToChar? ']' s).map fun (name, rest) => (if name.isEmpty then text else name, rest)
  | _ => none

/-- A text with a single space for the blanks in each place. -/
def joinBlanks : List Char → List Char
  | [] => []
  | c :: rest =>
    if Text.isBlank c then
      if rest.head?.any Text.isBlank then joinBlanks rest else ' ' :: joinBlanks rest
    else c :: joinBlanks rest

/-- Finds links or images with names of references; a `short` one is its own name. Text that has the
    form of one is passed over when the name is not defined. -/
def referenceRule (references : References) (isImage short : Bool)
    (later : List Inline → List Inline) : Rule := fun before s => do
  let (text, s) ← bracketed 0 (← afterOpening? isImage before s)
  let (name, rest) ← if short then some (text, s) else nameAfter? text s
  let reference? := (Inline.onlyChars? name).bind fun name =>
    references.get? (joinBlanks (referenceName name))
  match reference? with
  | some r => return .found [linkOrImage isImage later text r.target r.title] rest
  | none => return .passed rest

end AgentScript.Markup
