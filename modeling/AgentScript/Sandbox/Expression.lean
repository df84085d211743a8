import AgentScript.Sandbox.Tree

set_option autoImplicit false

/-! # Expressions and instructions

The code that a sandbox runs is a list of instructions, one for each simple statement. Their
expressions are built from constants, names, lists, tuples, dictionaries, sums, quotients and signs,
and from uses of what an object holds and calls. -/

namespace AgentScript.Sandbox

/-- An expression. -/
inductive Expr where
  | constant (v : Value)
  | name (n : String)
  | list (items : List Expr)
  | tuple (items : List Expr)
  | dict (entries : List (Expr × Expr))
  | sum (a b : Expr)
  | quotient (a b : Expr)
  | signed (negative : Bool) (e : Expr)
  /-- What an object holds under a name. -/
  | part (owner : Expr) (name : String)
  /-- A call with arguments by position and by name. -/
  | call (callee : Expr) (arguments : List Expr) (named : List (String × Expr))

/-- An instruction. -/
inductive Instruction where
  | skip
  | assign (names : List String) (value : Expr)
  | evaluate (e : Expr)
  | yield (result : Option Expr)
  /-- Fail with what an expression stands for, perhaps for the sake of a cause. -/
  | fail (failure cause : Option Expr)
  | importModule (m : Imported)
  /-- Import names from a module; the level counts the dots in front of a relative one. -/
  | importFrom (level : Nat) (module : List String) (names : List Imported)
  /-- Import all names of a module, in a line of the given number. -/
  | importAll (line : Nat)

/-- The constants with names of their own. -/
def namedConstant? (word : String) : Option Value :=
  match word with
  | "True" => some (.bool true)
  | "False" => some (.bool false)
  | "None" => some .null
  | _ => none

/-- Texts that follow each other at once, as one text. -/
def readTexts (text : String) : List Lexeme → String × List Lexeme
  | { token := .constant (.str more), .. } :: rest => readTexts (text ++ more) rest
  | rest => (text, rest)

/-- The rest of some tokens that must begin with a mark. -/
def expectMark (mark : String) (lexemes : List Lexeme) : Except Stumble (List Lexeme) :=
  if beginsWithMark mark lexemes then .ok (lexemes.drop 1) else stumble lexemes

mutual

/-- An expression at the front of a list of tokens, and the rest. The first argument of this and the
    following readers bounds how deep they go. -/
def readExpr : Nat → List Lexeme → Except Stumble (Expr × List Lexeme)
  | 0, lexemes => stumble lexemes
  | fuel + 1, lexemes => do
    let (a, rest) ← readProduct fuel lexemes
    readSums fuel a rest

/-- The further terms of a sum. -/
def readSums : Nat → Expr → List Lexeme → Except Stumble (Expr × List Lexeme)
  | fuel + 1, a, { token := .mark "+", .. } :: rest => do
    let (b, rest) ← readProduct fuel rest
    readSums fuel (.sum a b) rest
  | _, a, rest => .ok (a, rest)

/-- A term of a sum. -/
def readProduct : Nat → List Lexeme → Except Stumble (Expr × List Lexeme)
  | 0, lexemes => stumble lexemes
  | fuel + 1, lexemes => do
    let (a, rest) ← readSigned fuel lexemes
    readQuotients fuel a rest

/-- The further divisors of a term. -/
def readQuotients : Nat → Expr → List Lexeme → Except Stumble (Expr × List Lexeme)
  | fuel + 1, a, { token := .mark "/", .. } :: rest => do
    let (b, rest) ← readSigned fuel rest
    readQuotients fuel (.quotient a b) rest
  | _, a, rest => .ok (a, rest)

/-- An expression with signs in front. -/
def readSigned : Nat → List Lexeme → Except Stumble (Expr × List Lexeme)
  | fuel + 1, { token := .mark "-", .. } :: rest => do
    let (e, rest) ← readSigned fuel rest
    return (.signed true e, rest)
  | fuel + 1, { token := .mark "+", .. } :: rest => do
    let (e, rest) ← readSigned fuel rest
    return (.signed false e, rest)
  | fuel + 1, lexemes => do
    let (a, rest) ← readAtom fuel lexemes
    readUses fuel a rest
  | 0, lexemes => stumble lexemes

/-- The uses of what comes before: its parts and calls of it. -/
def readUses : Nat → Expr → List Lexeme → Except Stumble (Expr × List Lexeme)
  | fuel + 1, a, { token := .mark ".", .. } :: rest => do
    let (n, rest) ← readName rest
    readUses fuel (.part a n) rest
  | fuel + 1, a, { token := .mark "(", .. } :: rest => do
    let (arguments, named, rest) ← readArguments fuel rest
    readUses fuel (.call a arguments named) rest
  | _, a, rest => .ok (a, rest)

/-- An expression without operators and uses. -/
def readAtom : Nat → List Lexeme → Except Stumble (Expr × List Lexeme)
  | 0, lexemes => stumble lexemes
  | fuel + 1, lexemes =>
    match lexemes with
    | { token := .constant (.str text), .. } :: rest =>
      let (text, rest) := readTexts text rest
      .ok (.constant (.str text), rest)
    | { token := .constant v, .. } :: rest => .ok (.constant v, rest)
    | { token := .mark "(", .. } :: rest =>
      if beginsWithMark ")" rest then .ok (.tuple [], rest.drop 1)
      else do
        let (e, rest) ← readTuple fuel rest
        return (e, ← expectMark ")" rest)
    | { token := .mark "[", .. } :: rest => do
      let (items, rest) ← readItems fuel rest
      return (.list items, rest)
    | { token := .mark "\x7b", .. } :: rest => do
      let (entries, rest) ← readEntries fuel rest
      return (.dict entries, rest)
    | { token := .name n, .. } :: rest => .ok (.name n, rest)
    | { token := .keyword w, .. } :: rest =>
      (namedConstant? w).elim (stumble lexemes) fun v => .ok (.constant v, rest)
    | _ => stumble lexemes

/-- An expression, or several with commas after them, which make a tuple. -/
def readTuple : Nat → List Lexeme → Except Stumble (Expr × List Lexeme)
  | 0, lexemes => stumble lexemes
  | fuel + 1, lexemes => do
    let (e, rest) ← readExpr fuel lexemes
    if beginsWithMark "," rest then
      let (others, rest) ← readRow fuel (rest.drop 1)
      return (.tuple (e :: others), rest)
    else return (e, rest)

/-- The further expressions of a tuple, as far as there are any. -/
def readRow : Nat → List Lexeme → Except Stumble (List Expr × List Lexeme)
  | 0, lexemes => stumble lexemes
  | fuel + 1, lexemes =>
    if lexemes.isEmpty || beginsWithMark ")" lexemes || beginsWithMark "=" lexemes then
      .ok ([], lexemes)
    else do
      let (e, rest) ← readExpr fuel lexemes
      if beginsWithMark "," rest then
        let (others, rest) ← readRow fuel (rest.drop 1)
        return (e :: others, rest)
      else return ([e], rest)

/-- The items of a list up to its closing bracket. -/
def readItems : Nat → List Lexeme → Except Stumble (List Expr × List Lexeme)
  | 0, lexemes => stumble lexemes
  | fuel + 1, lexemes =>
    if beginsWithMark "]" lexemes then .ok ([], lexemes.drop 1)
    else do
      let (e, rest) ← readExpr fuel lexemes
      if beginsWithMark "," rest then
        let (others, rest) ← readItems fuel (rest.drop 1)
        return (e :: others, rest)
      else return ([e], ← expectMark "]" rest)

/-- The arguments of a call up to its closing bracket: those by position, those by name. -/
def readArguments :
    Nat → List Lexeme → Except Stumble (List Expr × List (String × Expr) × List Lexeme)
  | 0, lexemes => stumble lexemes
  | fuel + 1, lexemes =>
    match lexemes with
    | { token := .mark ")", .. } :: rest => .ok ([], [], rest)
    | { token := .name n, .. } :: { token := .mark "=", .. } :: rest => do
      let (e, rest) ← readExpr fuel rest
      let (arguments, named, rest') ← readMore fuel rest
      if arguments.isEmpty then return ([], (n, e) :: named, rest') else stumble rest
    | _ => do
      let (e, rest) ← readExpr fuel lexemes
      let (arguments, named, rest) ← readMore fuel rest
      return (e :: arguments, named, rest)

/-- The further arguments of a call. -/
def readMore :
    Nat → List Lexeme → Except Stumble (List Expr × List (String × Expr) × List Lexeme)
  | fuel + 1, { token := .mark ",", .. } :: rest => readArguments fuel rest
  | _, rest => do return ([], [], ← expectMark ")" rest)

/-- Entries of a dictionary up to the closing brace. -/
def readEntries : Nat → List Lexeme → Except Stumble (List (Expr × Expr) × List Lexeme)
  | 0, lexemes => stumble lexemes
  | fuel + 1, lexemes =>
    if beginsWithMark "\x7d" lexemes then .ok ([], lexemes.drop 1)
    else do
      let (key, rest) ← readExpr fuel lexemes
      let (value, rest) ← readExpr fuel (← expectMark ":" rest)
      if beginsWithMark "," rest then
        let (others, rest) ← readEntries fuel (rest.drop 1)
        return ((key, value) :: others, rest)
      else return ([(key, value)], ← expectMark "\x7d" rest)

end

/-- How deep the readers may go for some tokens. -/
def depthFor (lexemes : List Lexeme) : Nat :=
  6 * lexemes.length + 6

/-- The expression that a list of tokens writes. -/
def exprOf (lexemes : List Lexeme) : Except Stumble Expr := do
  let (e, rest) ← readTuple (depthFor lexemes) lexemes
  if rest.isEmpty then return e else stumble rest

/-- The names that are assigned, and what follows the last sign of equality after them. A constant
    cannot be assigned. -/
def readTargets : List Lexeme → Except Stumble (List String × List Lexeme)
  | l :: equal :: rest =>
    if equal.mark? != some "=" then .ok ([], l :: equal :: rest)
    else match l.token with
      | .name n => do
        let (names, rest) ← readTargets rest
        return (n :: names, rest)
      | .keyword w =>
        if (namedConstant? w).isSome then .error ⟨l :: equal :: rest, "cannot assign to " ++ w⟩
        else .ok ([], l :: equal :: rest)
      | .constant _ | .foreign =>
        .error ⟨l :: equal :: rest,
          "cannot assign to literal here. Maybe you meant '==' instead of '='?"⟩
      | .mark _ => .ok ([], l :: equal :: rest)
  | rest => .ok ([], rest)

/-- The failure that is raised, and its cause. -/
def readRaise (lexemes : List Lexeme) : Except Stumble Instruction := do
  let (e, rest) ← readExpr (depthFor lexemes) lexemes
  if rest.isEmpty then return .fail (some e) none
  else if beginsWithKeyword "from" rest then return .fail (some e) (some (← exprOf (rest.drop 1)))
  else stumble rest

/-- The instruction that a list of tokens writes. -/
def Instruction.ofLexemes (lexemes : List Lexeme) : Except Stumble Instruction :=
  let rest := lexemes.drop 1
  match lexemes.head?.bind Lexeme.keyword? with
  | some "pass" => if rest.isEmpty then .ok .skip else stumble rest
  | some "return" =>
    if rest.isEmpty then .ok (.yield none) else (exprOf rest).map fun e => .yield (some e)
  | some "raise" => if rest.isEmpty then .ok (.fail none none) else readRaise rest
  | _ => do
    match ← readTargets lexemes with
    | ([], rest) => return .evaluate (← exprOf rest)
    | (names, rest) => return .assign names (← exprOf rest)

/-- The instructions that a simple statement is. -/
def Instruction.ofSimple : Simple → Except Failure (List Instruction)
  | .importModules modules => .ok (modules.map .importModule)
  | .importFrom _ level module (some names) => .ok [.importFrom level module names]
  | .importFrom line _ _ none => .ok [.importAll line]
  | .other lexemes ending =>
    match Instruction.ofLexemes lexemes with
    | .ok i => .ok [i]
    | .error s => .error (s.failure ending)

end AgentScript.Sandbox
