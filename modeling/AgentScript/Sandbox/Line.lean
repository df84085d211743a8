import AgentScript.Sandbox.Token

set_option autoImplicit false

/-! # The lines of code

Code is read line by line. A line that leaves a bracket or a text open, or ends in a backslash, goes
on in the next one; a line that holds nothing but blanks or a comment does not count. Faults in the
tokens, the brackets and the indentation are found here. Reading stops at the first of them, and the
lines before it are kept, for there may be a fault of another kind in these. -/

namespace AgentScript.Sandbox

/-- A line of text with its number. -/
structure PhysicalLine where
  number : Nat
  content : List Char

/-- A token and where it stands. -/
structure Lexeme where
  token : Token
  line : PhysicalLine
  column : Nat
  width : Nat

/-- A line of code: where it begins, how deep it is indented, its tokens, and its end, which begins
    with a comment if there is one. -/
structure CodeLine where
  first : PhysicalLine
  indent : Nat
  lexemes : List Lexeme
  ending : Lexeme
  /-- Whether the line cannot be read to its end. -/
  unfinished : Bool := false

/-- The end of a line, which begins at a column. -/
def PhysicalLine.ending (line : PhysicalLine) (column : Nat) : Lexeme :=
  ⟨.mark "", line, column, max 1 (line.content.length - column)⟩

/-- A fault in code at a line, perhaps with some columns of it marked. -/
def faultAt (line : PhysicalLine) (kind wording : String) (column : Option Nat)
    (width : Nat := 1) : Failure :=
  .malformed
    { kind := kind, wording := wording, line := line.number, text := some line.content
      column := column, width := width }

/-- A malformed text of code, a column marked. -/
def syntaxFault (line : PhysicalLine) (wording : String) (column : Nat) : Failure :=
  faultAt line "SyntaxError" wording column

/-- The lines of a text, numbered from one; the mark at the end of the last one begins no other. -/
def physicalLines (code : String) : List PhysicalLine :=
  let pieces := Text.splitOnChar '\n' (Text.unifyLineEnds code.toList)
  let pieces := if pieces.getLast? == some [] then pieces.dropLast else pieces
  pieces.mapIdx fun i content => ⟨i + 1, content⟩

/-! ## Indentation -/

/-- How deep a line is indented, first with tabs that go to the next multiple of eight, then with
    tabs that count as one blank. -/
structure Depth where
  wide : Nat := 0
  narrow : Nat := 0
deriving DecidableEq

/-- The indentation that blanks make. -/
def Depth.ofBlanks : Depth → List Char → Depth
  | d, ' ' :: rest => Depth.ofBlanks ⟨d.wide + 1, d.narrow + 1⟩ rest
  | d, '\t' :: rest => Depth.ofBlanks ⟨d.wide / 8 * 8 + 8, d.narrow + 1⟩ rest
  | _, '\x0c' :: rest => Depth.ofBlanks {} rest
  | d, _ => d

/-- The text of a line without its indentation. -/
def dropIndent (content : List Char) : List Char :=
  content.dropWhile isSpace

/-- How many characters indent a line. -/
def PhysicalLine.margin (line : PhysicalLine) : Nat :=
  line.content.length - (dropIndent line.content).length

/-- Whether a line does not count. -/
def isIdle (content : List Char) : Bool :=
  match dropIndent content with
  | [] => true
  | c :: _ => c == '#'

/-- The depths around a line, innermost first, after the line itself has been placed among them. It
    must be as deep as one of them or deeper than all, however tabs are counted. -/
def placeDepth (line : PhysicalLine) (d : Depth) (around : List Depth) :
    Except Failure (List Depth) :=
  let mixed := faultAt line "TabError" "inconsistent use of tabs and spaces in indentation" (some 0)
  let top := around.headD {}
  if top.wide < d.wide then
    if d.narrow ≤ top.narrow then .error mixed else .ok (d :: around)
  else
    let outer := around.dropWhile fun e => d.wide < e.wide
    let level := outer.headD {}
    if level.wide != d.wide then
      .error (faultAt line "IndentationError"
        "unindent does not match any outer indentation level" line.content.length)
    else if level.narrow != d.narrow then .error mixed
    else .ok outer

/-! ## The tokens of a line -/

/-- A bracket that is open. -/
structure OpenBracket where
  mark : String
  line : PhysicalLine
  column : Nat

/-- A text that is open, with where it begins and the content so far. -/
structure OpenText where
  quotation : Quotation
  line : PhysicalLine
  column : Nat
  content : List Char

/-- What has been read of a line of code: its tokens, latest first, and what is open. -/
structure Lexing where
  lexemes : List Lexeme := []
  brackets : List OpenBracket := []
  openText : Option OpenText := none
  joined : Bool := false
  /-- The column of the comment that ends the latest line of text. -/
  comment : Option Nat := none

/-- Whether the line of code goes on in the next line of text. -/
def Lexing.goesOn (l : Lexing) : Bool :=
  l.openText.isSome || l.joined || !l.brackets.isEmpty

/-- Add a token that stands at a column of a line. -/
def Lexing.push (l : Lexing) (token : Token) (line : PhysicalLine) (column width : Nat) : Lexing :=
  { l with lexemes := ⟨token, line, column, width⟩ :: l.lexemes }

/-- Add a mark. A closing bracket must have the open one it belongs to. -/
def Lexing.pushMark (l : Lexing) (mark : String) (line : PhysicalLine) (column : Nat) :
    Except Failure Lexing :=
  let pushed := l.push (.mark mark) line column mark.length
  if (closes? mark).isSome then
    .ok { pushed with brackets := ⟨mark, line, column⟩ :: l.brackets }
  else if !isClosing mark then .ok pushed
  else match l.brackets with
    | [] => .error (syntaxFault line ("unmatched '" ++ mark ++ "'") column)
    | b :: outer =>
      if closes? b.mark == some mark then .ok { pushed with brackets := outer }
      else
        let place := if b.line.number == line.number then ""
          else " on line " ++ decimalText b.line.number
        .error (syntaxFault line
          ("closing parenthesis '" ++ mark ++ "' does not match opening parenthesis '" ++ b.mark ++
            "'" ++ place) column)

/-- The fault of a character that has no place in code. -/
def strangeChar (line : PhysicalLine) (c : Char) (column : Nat) : Failure :=
  let code := "U+" ++ String.ofList (Text.hexPadded 4 c.toNat |>.map Char.toUpper)
  syntaxFault line
    (if Text.isPrintable c then
      "invalid character '" ++ String.singleton c ++ "' (" ++ code ++ ")"
    else "invalid non-printable character " ++ code) column

/-- The fault of a text that is not closed, noticed at a line. -/
def OpenText.fault (t : OpenText) (noticed : Nat) : Failure :=
  syntaxFault t.line
    ("unterminated " ++ (if t.quotation.triple then "triple-quoted " else "") ++
      "string literal (detected at line " ++ decimalText noticed ++ ")") t.column

/-- Go on with an open text in a line, and return the rest of the line. -/
def Lexing.readText (l : Lexing) (t : OpenText) (line : PhysicalLine) (s : List Char) :
    Except Failure (Lexing × List Char) :=
  let more (content : List Char) : OpenText := { t with content := t.content ++ content ++ ['\n'] }
  match t.quotation.extent s with
  | .closed content rest =>
    let token := t.quotation.token (t.content ++ content)
    let width :=
      if t.line.number == line.number then line.content.length - rest.length - t.column else 1
    .ok ({ l.push token t.line t.column width with openText := none }, rest)
  | .continued content => .ok ({ l with openText := some (more content) }, [])
  | .unclosed content =>
    if t.quotation.triple then .ok ({ l with openText := some (more content) }, [])
    else .error (t.fault line.number)

/-- Read the first token of what is left of a line, which is not empty, and return the rest. -/
def Lexing.readToken (l : Lexing) (line : PhysicalLine) (s : List Char) :
    Except Failure (Lexing × List Char) :=
  let column := line.content.length - s.length
  match opening? s with
  | some (q, rest) => l.readText ⟨q, line, column, []⟩ line rest
  | none =>
    if beginsNumeral s then
      match readNumeral s with
      | .ok (value, rest) =>
        .ok (l.push (value.elim .foreign .constant) line column (s.length - rest.length), rest)
      | .error fault =>
        .error (faultAt line "SyntaxError" fault.wording (fault.mark.map fun m => column + m.1)
          ((fault.mark.map Prod.snd).getD 1))
    else
      let word := s.takeWhile isWordPart
      match word.head?, misfit? word with
      | none, _ =>
        let mark := markAt s
        let rest := s.drop mark.length
        match mark.toList with
        | ['\\'] =>
          if rest.isEmpty then .ok ({ l with joined := true }, [])
          else
            .error (syntaxFault line "unexpected character after line continuation character"
              (column + 1))
        | [c] =>
          if c.toNat < 32 || c.toNat == 127 then .error (strangeChar line c column)
          else do return (← l.pushMark mark line column, rest)
        | _ => do return (← l.pushMark mark line column, rest)
      | some _, none =>
        .ok (l.push (.ofWord word) line column word.length, s.drop word.length)
      | some c, some n => .error (strangeChar line ((word[n]?).getD c) (column + n))

/-- Read what is left of a line, as far as it can be read. The first argument bounds its length. -/
def Lexing.readRest (line : PhysicalLine) : Nat → Lexing → List Char → Lexing × Option Failure
  | 0, l, _ | _, l, [] => (l, none)
  | fuel + 1, l, c :: rest =>
    if c == '#' then ({ l with comment := some (line.content.length - (rest.length + 1)) }, none)
    else if isSpace c then Lexing.readRest line fuel l rest
    else match l.readToken line (c :: rest) with
      | .ok (l, rest) => Lexing.readRest line fuel l rest
      | .error f => (l, some f)

/-- Read a line of text as a part of a line of code, as far as it can be read. -/
def Lexing.readLine (l : Lexing) (line : PhysicalLine) : Lexing × Option Failure :=
  let l := { l with joined := false, comment := none }
  match l.openText with
  | none => Lexing.readRest line (line.content.length + 1) l line.content
  | some t =>
    match l.readText t line line.content with
    | .ok (l, rest) => Lexing.readRest line (line.content.length + 1) l rest
    | .error f => (l, some f)

/-! ## All lines -/

/-- The lines of code, and the fault in the tokens that ends them, if there is one. The last line is
    there as far as it can be read. -/
structure Lexed where
  lines : List CodeLine := []
  fault : Option Failure := none
  /-- Whether the fault is a bracket that is not closed in the end. -/
  unclosed : Bool := false

/-- A line of code that is being read: where it begins, how deep it is indented, and what has been
    read of it. -/
structure Partly where
  first : PhysicalLine
  indent : Nat
  lexing : Lexing

/-- The line of code that has been read, up to a line of text. -/
def Partly.code (p : Partly) (last : PhysicalLine) (unfinished : Bool) : CodeLine :=
  { first := p.first, indent := p.indent, lexemes := p.lexing.lexemes.reverse
    ending := last.ending (p.lexing.comment.getD last.content.length), unfinished := unfinished }

/-- What the end of the text makes of a line that is still open. -/
def Partly.atEnd (p : Partly) (last : PhysicalLine) : Lexed :=
  let lines := [p.code last true]
  match p.lexing.openText, p.lexing.brackets with
  | some t, _ => { lines := lines, fault := some (t.fault last.number) }
  | none, b :: _ =>
    { lines := lines, unclosed := true
      fault := some (syntaxFault b.line ("'" ++ b.mark ++ "' was never closed") b.column) }
  | none, [] =>
    { lines := lines
      fault := some (syntaxFault last "unexpected EOF while parsing" last.content.length) }

/-- The lines of code among the lines of a text, given the depths around, the line before them, and
    the line of code that is still open. -/
def lexLines (around : List Depth) (before : PhysicalLine) :
    Option Partly → List PhysicalLine → Lexed
  | none, [] => {}
  | some p, [] => p.atEnd before
  | partly, line :: rest =>
    let started : Except Failure (Option (Partly × List Depth)) :=
      match partly with
      | some p => .ok (some (p, around))
      | none =>
        if isIdle line.content then .ok none
        else
          let depth := Depth.ofBlanks {} line.content
          (placeDepth line depth around).map fun around => some (⟨line, depth.wide, {}⟩, around)
    match started with
    | .error f => { fault := some f }
    | .ok none => lexLines around line none rest
    | .ok (some (p, around)) =>
      let (lexing, fault) := p.lexing.readLine line
      let p := { p with lexing := lexing }
      if fault.isSome then { lines := [p.code line true], fault := fault }
      else if lexing.goesOn then lexLines around line (some p) rest
      else
        let others := lexLines around line none rest
        { others with lines := p.code line false :: others.lines }

/-- The lines of code in a text. -/
def lex (lines : List PhysicalLine) : Lexed :=
  lexLines [{}] ⟨1, []⟩ none lines

end AgentScript.Sandbox
