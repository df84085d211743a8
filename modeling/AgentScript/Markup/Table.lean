import AgentScript.Markup.Inline

set_option autoImplicit false

/-! # Tables

A table is a row of headings, a row that aligns the columns, and rows of cells, divided by bars. A
bar behind a backslash or in a code span divides nothing. -/

namespace AgentScript.Markup

/-- How the cells of a column are aligned. -/
inductive Alignment where
  | left
  | center
  | right
deriving DecidableEq

/-- A table; a column without an alignment has none of its own. -/
structure Table where
  columns : List (Option Alignment)
  headings : List (List Char)
  rows : List (List (List Char))

/-! ## Cells -/

/-- The pieces of `s` between the bars that `isBar` accepts by their positions, from position `i`
    on. -/
def splitAtBars (isBar : Nat → Bool) : Nat → List Char → List (List Char)
  | _, [] => [[]]
  | i, c :: rest =>
    if isBar i then [] :: splitAtBars isBar (i + 1) rest
    else Text.consToHead c (splitAtBars isBar (i + 1) rest)

/-- A mark in a row. -/
inductive RowMark where
  | bar (position : Nat)
  /-- A run of backticks from `position` to `last`, of the lengths that it has as an opening and as
      a closing one. -/
  | ticks (position last opening closing : Nat)
deriving DecidableEq

/-- The bars and the runs of backticks of a row, from position `i` on. -/
def rowMarks : Nat → Nat → List Char → List RowMark
  | 0, _, _ => []
  | _, _, [] => []
  | fuel + 1, i, c :: rest =>
    let ticks := rest.takeWhile (· == backtick)
    let after := rest.drop ticks.length
    if c == '\\' then
      match rest with
      | next :: later =>
        if next == backtick then
          .ticks i (i + ticks.length) (ticks.length - 1) ticks.length ::
            rowMarks fuel (i + 1 + ticks.length) after
        else if next == '\\' || next == '|' then rowMarks fuel (i + 2) later
        else rowMarks fuel (i + 1) rest
      | [] => []
    else if c == backtick then
      .ticks i (i + ticks.length) (ticks.length + 1) (ticks.length + 1) ::
        rowMarks fuel (i + 1 + ticks.length) after
    else if c == '|' then .bar i :: rowMarks fuel (i + 1) rest
    else rowMarks fuel (i + 1) rest

/-- The marks after the next run of `n` backticks, and where that run ends. -/
def closingTicks (n : Nat) : List RowMark → Option (Nat × List RowMark)
  | [] => none
  | .ticks _ last _ closing :: rest =>
    if closing == n then some (last, rest) else closingTicks n rest
  | .bar _ :: rest => closingTicks n rest

/-- The code spans of a row, by their first and last positions. -/
def codeRegions : Nat → List RowMark → List (Nat × Nat)
  | 0, _ => []
  | _, [] => []
  | fuel + 1, .bar _ :: rest => codeRegions fuel rest
  | fuel + 1, .ticks position _ opening _ :: rest =>
    match closingTicks opening rest with
    | some (last, after) =>
      if opening == 0 then codeRegions fuel rest else (position, last) :: codeRegions fuel after
    | none => codeRegions fuel rest

/-- The cells of a row between its outer bars. -/
def innerCells (row : List Char) : List (List Char) :=
  let marks := rowMarks row.length 0 row
  let regions := codeRegions marks.length marks
  let isBar (i : Nat) : Bool :=
    marks.contains (.bar i) && !regions.any fun (first, last) => first ≤ i && i ≤ last
  splitAtBars isBar 0 row

/-- Whether a row ends with a bar. -/
def endsWithBar (row : List Char) : Bool :=
  match row.reverse with
  | '|' :: before => (before.takeWhile (· == '\\')).length % 2 == 0
  | _ => false

/-- The cells of a row. Outer bars belong to no cell if the table is bordered. -/
def cellsOf (bordered : Bool) (row : List Char) : List (List Char) :=
  if bordered then
    let row := match row with
      | '|' :: rest => rest
      | row => row
    innerCells (if endsWithBar row then row.dropLast else row)
  else innerCells row

/-- The alignment that a cell of the second row stands for. -/
def alignmentOf (cell : List Char) : Option Alignment :=
  let cell := trimSpaces cell
  match cell.head? == some ':', cell.getLast? == some ':' with
  | true, true => some .center
  | true, false => some .left
  | false, true => some .right
  | false, false => none

/-- The cells of a row, as many as there are columns. -/
def fitTo (columns : Nat) (cells : List (List Char)) : List (List Char) :=
  ((cells.map trimSpaces) ++ List.replicate columns []).take columns

/-- The table that the lines of a block write, if they do. -/
def tableOf? (block : List (List Char)) : Option Table :=
  match block.map trimSpaces with
  | header :: aligning :: rows =>
    let barred (row : List Char) : Bool := row.head? == some '|' || endsWithBar row
    let bordered := barred header
    let headings := cellsOf bordered header
    let columns := cellsOf bordered aligning
    let isTable := headings.length > 1 || (bordered && (aligning :: rows).all barred)
    let aligns := columns.flatten.all "|:- ".toList.contains
    if isTable && aligns && columns.length == headings.length then
      let fit (row : List Char) := fitTo columns.length (cellsOf bordered row)
      some
        { columns := columns.map alignmentOf
          headings := headings.map trimSpaces
          rows := rows.map fit }
    else none
  | _ => none

end AgentScript.Markup
