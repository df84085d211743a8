import AgentScript.Sandbox.Line

set_option autoImplicit false

/-! # The tree of code

Indentation makes a tree of the lines of code. Of a simple statement only its tokens matter here,
and of an import what it names; compound statements hold further statements. -/

namespace AgentScript.Sandbox

/-! ## Trees -/

/-- Something that is imported: its dotted name, and the name that is bound to it if it is given
    another one. -/
structure Imported where
  path : List String
  renamed : Option String := none

/-- A statement without other statements in it. -/
inductive Simple where
  | importModules (modules : List Imported)
  /-- Names imported from a module, or all its names; the level counts the dots in front of a
      relative one. The statement begins in a line of the given number. -/
  | importFrom (line level : Nat) (module : List String) (names : Option (List Imported))
  /-- Something else, by its tokens and what ends it. -/
  | other (lexemes : List Lexeme) (ending : Lexeme)

/-- A statement with the statements in it, or the handler of a failure. -/
inductive Tree where
  | simple (s : Simple)
  /-- A condition or a loop. -/
  | branch (body orElse : List Tree)
  /-- A function or a class. -/
  | scope (body : List Tree)
  | attempt (body handlers orElse atLast : List Tree)
  | handler (body : List Tree)

/-! ## Faults -/

/-- Where a statement stops making sense: the tokens from there on, and what is wrong with them. -/
structure Stumble where
  rest : List Lexeme
  wording : String := "invalid syntax"

/-- How a fault in the structure of code stands to a fault in the tokens after it. -/
inductive Standing where
  /-- It is noticed first. -/
  | first
  /-- It gives way, unless only something is not closed. -/
  | yielding
  /-- It is just that the text ends too soon. -/
  | ending
deriving DecidableEq

/-- A fault in the structure of code. -/
structure Fault where
  failure : Failure
  standing : Standing := .yielding

/-- The failure that a stumble is, in a statement with the given end. -/
def Stumble.failure (s : Stumble) (ending : Lexeme) : Failure :=
  let l := s.rest.headD ending
  faultAt l.line "SyntaxError" s.wording (some l.column) l.width

/-- The fault that a stumble in a line is. -/
def Stumble.fault (s : Stumble) (line : CodeLine) : Fault :=
  ⟨s.failure line.ending, if s.rest.isEmpty && line.unfinished then .ending else .yielding⟩

/-! ## Imports -/

/-- Stop at the first of some tokens. -/
def stumble {α : Type} (rest : List Lexeme) : Except Stumble α :=
  .error { rest := rest }

/-- The mark that a token is. -/
def Lexeme.mark? (l : Lexeme) : Option String :=
  match l.token with
  | .mark m => some m
  | _ => none

/-- The reserved word that a token is. -/
def Lexeme.keyword? (l : Lexeme) : Option String :=
  match l.token with
  | .keyword w => some w
  | _ => none

/-- Whether some tokens begin with a mark. -/
def beginsWithMark (mark : String) (lexemes : List Lexeme) : Bool :=
  lexemes.head?.any fun l => l.mark? == some mark

/-- Whether some tokens begin with a reserved word. -/
def beginsWithKeyword (word : String) (lexemes : List Lexeme) : Bool :=
  lexemes.head?.any fun l => l.keyword? == some word

/-- A name and the rest. -/
def readName : List Lexeme → Except Stumble (String × List Lexeme)
  | ⟨.name n, _, _, _⟩ :: rest => .ok (n, rest)
  | rest => stumble rest

/-- The further parts of a dotted name, and the rest. -/
def readParts : List Lexeme → Except Stumble (List String × List Lexeme)
  | dot :: ⟨.name n, a, b, c⟩ :: rest =>
    if dot.mark? == some "." then do
      let (parts, rest) ← readParts rest
      return (n :: parts, rest)
    else .ok ([], dot :: ⟨.name n, a, b, c⟩ :: rest)
  | dot :: rest => if dot.mark? == some "." then stumble rest else .ok ([], dot :: rest)
  | [] => .ok ([], [])

/-- A dotted name, and the rest. -/
def readDotted (lexemes : List Lexeme) : Except Stumble (List String × List Lexeme) := do
  let (n, rest) ← readName lexemes
  let (parts, rest) ← readParts rest
  return (n :: parts, rest)

/-- The new name given to what is imported, if one is given, and the rest. -/
def readRenaming (lexemes : List Lexeme) : Except Stumble (Option String × List Lexeme) :=
  if beginsWithKeyword "as" lexemes then do
    let (n, rest) ← readName (lexemes.drop 1)
    return (some n, rest)
  else .ok (none, lexemes)

/-- The modules that an import lists, up to its end. The first argument bounds their number. -/
def readModules : Nat → List Lexeme → Except Stumble (List Imported)
  | 0, rest => stumble rest
  | fuel + 1, lexemes => do
    let (path, rest) ← readDotted lexemes
    let (renamed, rest) ← readRenaming rest
    if rest.isEmpty then return [⟨path, renamed⟩]
    else if beginsWithMark "," rest then
      return ⟨path, renamed⟩ :: (← readModules fuel (rest.drop 1))
    else stumble rest

/-- The names that an import lists, up to a closing bracket or to the end of the statement. The
    first argument bounds their number. -/
def readNames (inBrackets : Bool) : Nat → List Lexeme → Except Stumble (List Imported)
  | 0, rest => stumble rest
  | fuel + 1, lexemes => do
    let (n, rest) ← readName lexemes
    let (renamed, rest) ← readRenaming rest
    let here : Imported := ⟨[n], renamed⟩
    let ended (rest : List Lexeme) := if inBrackets then beginsWithMark ")" rest else rest.isEmpty
    if ended rest then finish here rest
    else if !beginsWithMark "," rest then stumble rest
    else
      let rest := rest.drop 1
      if !ended rest then return here :: (← readNames inBrackets fuel rest)
      else if inBrackets then finish here rest
      else .error ⟨rest, "trailing comma not allowed without surrounding parentheses"⟩
where
  finish (here : Imported) (rest : List Lexeme) : Except Stumble (List Imported) :=
    if (rest.drop 1).isEmpty then .ok [here] else stumble (rest.drop 1)

/-- What follows `import` after a module: the names that are imported, or all. -/
def readImported (lexemes : List Lexeme) : Except Stumble (Option (List Imported)) :=
  if beginsWithMark "*" lexemes then
    if (lexemes.drop 1).isEmpty then .ok none else stumble (lexemes.drop 1)
  else if beginsWithMark "(" lexemes then (readNames true lexemes.length (lexemes.drop 1)).map some
  else (readNames false (lexemes.length + 1) lexemes).map some

/-- How many dots stand in front of a module, and the rest. -/
def readLevel : List Lexeme → Nat × List Lexeme
  | l :: rest =>
    if l.mark? == some "." then ((readLevel rest).1 + 1, (readLevel rest).2)
    else if l.mark? == some "..." then ((readLevel rest).1 + 3, (readLevel rest).2)
    else (0, l :: rest)
  | [] => (0, [])

/-- An import of names, after `from` in a line of the given number. -/
def readImportFrom (line : Nat) (lexemes : List Lexeme) : Except Stumble Simple := do
  let (level, rest) := readLevel lexemes
  let (module, rest) ←
    if level != 0 && beginsWithKeyword "import" rest then pure ([], rest) else readDotted rest
  if beginsWithKeyword "import" rest then
    return .importFrom line level module (← readImported (rest.drop 1))
  else stumble rest

/-! ## Simple statements -/

/-- The reserved words that begin a simple statement other than an import. -/
def statementWords : List String :=
  ["assert", "break", "continue", "del", "global", "nonlocal", "pass", "raise", "return"]

/-- The reserved words that begin an expression. -/
def expressionWords : List String :=
  ["False", "None", "True", "await", "lambda", "not", "yield"]

/-- The reserved words that can stand inside a simple statement: those that begin an expression or
    are a part of one. -/
def innerWords : List String :=
  expressionWords ++ ["and", "async", "else", "for", "from", "if", "in", "is", "or"]

/-- The tokens from the first reserved word on that is none of some words. -/
def firstOutside (words : List String) : List Lexeme → Option (List Lexeme)
  | [] => none
  | l :: rest =>
    if l.keyword?.any fun w => !words.contains w then some (l :: rest) else firstOutside words rest

/-- Whether a token is a text, be it one that is evaluated or not. -/
def Lexeme.isText (l : Lexeme) : Bool :=
  match l.token with
  | .constant (.str _) | .constant (.bytes _) | .foreign => true
  | _ => false

/-- Whether a token begins an operand, brackets and words that also stand between operands aside. -/
def Lexeme.isOperand (l : Lexeme) : Bool :=
  match l.token with
  | .name _ | .constant _ | .foreign => true
  | .keyword w => ["False", "None", "True", "lambda", "await"].contains w
  | .mark _ => false

/-- Whether a token ends an operand. -/
def Lexeme.endsOperand (l : Lexeme) : Bool :=
  match l.token with
  | .name _ | .constant _ | .foreign => true
  | .keyword w => ["False", "None", "True"].contains w
  | .mark m => isClosing m

/-- Whether a token is a mark that means nothing. -/
def Lexeme.isStray (l : Lexeme) : Bool :=
  l.mark?.any fun m => ["$", "?", "!", "`"].contains m

/-- How many brackets are open after a token. -/
def Lexeme.deepen (l : Lexeme) (depth : Nat) : Nat :=
  if l.mark?.any fun m => (closes? m).isSome then depth + 1
  else if l.mark?.any isClosing then depth - 1
  else depth

/-- The tokens from the first one on that cannot stand where it does: a mark that means nothing, or
    outside all brackets an operand that follows another one at once. -/
def firstStray : (depth : Nat) → List Lexeme → Option (List Lexeme)
  | _, [] => none
  | depth, l :: rest =>
    let deeper := l.deepen depth
    let adjacent := deeper == 0 && l.endsOperand &&
      rest.head?.any fun r => r.isOperand && !(l.isText && r.isText)
    if l.isStray then some (l :: rest) else if adjacent then some rest else firstStray deeper rest

/-- Of two places where tokens stop making sense, the first. -/
def firstOf (a b : Option (List Lexeme)) : Option (List Lexeme) :=
  match a, b with
  | some r, some s => if r.length < s.length then some s else some r
  | _, _ => a.or b

/-- The statement that tokens with the given end make. -/
def Simple.ofLexemes (lexemes : List Lexeme) (ending : Lexeme) : Except Stumble Simple :=
  if beginsWithKeyword "import" lexemes then
    (readModules (lexemes.length + 1) (lexemes.drop 1)).map .importModules
  else if beginsWithKeyword "from" lexemes then
    readImportFrom ((lexemes.head?.map fun l => l.line.number).getD 0) (lexemes.drop 1)
  else
    let misplaced := (firstOutside (statementWords ++ expressionWords) (lexemes.take 1)).map
      fun _ => lexemes
    let inner := firstOf (firstOutside innerWords (lexemes.drop 1)) (firstStray 0 lexemes)
    if beginsWithMark "@" lexemes then stumble lexemes
    else match misplaced.or inner with
      | some rest => stumble rest
      | none => .ok (.other lexemes ending)

/-- The statements that tokens with semicolons between them make; `here` is what has been passed of
    the statement that is read, latest first, with so many brackets open. -/
def readStatements (ending : Lexeme) (here : List Lexeme) :
    (depth : Nat) → List Lexeme → Except Stumble (List Simple)
  | _, [] =>
    if here.isEmpty then .ok [] else do return [← Simple.ofLexemes here.reverse ending]
  | depth, l :: rest =>
    if l.mark? != some ";" then readStatements ending (l :: here) (l.deepen depth) rest
    else if here.isEmpty || depth != 0 then stumble (l :: rest)
    else match Simple.ofLexemes here.reverse l with
      | .ok first => do return first :: (← readStatements ending [] 0 rest)
      | .error s => .error { s with rest := s.rest ++ l :: rest }

/-- The simple statements that tokens of a line make. -/
def simpleStatements (line : CodeLine) (lexemes : List Lexeme) : Except Fault (List Tree) :=
  match readStatements line.ending [] 0 lexemes with
  | .ok statements => .ok (statements.map .simple)
  | .error s => .error (s.fault line)

/-! ## Compound statements -/

/-- How a clause of a compound statement is introduced. -/
inductive Clause where
  | condition (word : String)
  | elif
  | orElse
  | function
  | type
  | attempt
  | handler
  | atLast
deriving DecidableEq

/-- The clause that the first word of a line introduces, and what follows that word. -/
def clause? (lexemes : List Lexeme) : Option (Clause × List Lexeme) :=
  let words := lexemes.map Lexeme.keyword?
  match words with
  | some "async" :: some "for" :: _ => some (.condition "for", lexemes.drop 2)
  | some "async" :: some "with" :: _ => some (.condition "with", lexemes.drop 2)
  | some "async" :: some "def" :: _ => some (.function, lexemes.drop 2)
  | some "if" :: _ => some (.condition "if", lexemes.drop 1)
  | some "for" :: _ => some (.condition "for", lexemes.drop 1)
  | some "while" :: _ => some (.condition "while", lexemes.drop 1)
  | some "with" :: _ => some (.condition "with", lexemes.drop 1)
  | some "elif" :: _ => some (.elif, lexemes.drop 1)
  | some "else" :: _ => some (.orElse, lexemes.drop 1)
  | some "def" :: _ => some (.function, lexemes.drop 1)
  | some "class" :: _ => some (.type, lexemes.drop 1)
  | some "try" :: _ => some (.attempt, lexemes.drop 1)
  | some "except" :: _ => some (.handler, lexemes.drop 1)
  | some "finally" :: _ => some (.atLast, lexemes.drop 1)
  | _ => none

/-- How a fault names a clause. -/
def Clause.title : Clause → String
  | .condition word => "'" ++ word ++ "' statement"
  | .elif => "'elif' statement"
  | .orElse => "'else' statement"
  | .function => "function definition"
  | .type => "class definition"
  | .attempt => "'try' statement"
  | .handler => "'except' statement"
  | .atLast => "'finally' statement"

/-- The tokens in front of the colon that ends the head of a clause, and those after it; brackets
    are stepped over, and the colon that belongs to a `lambda`. -/
def splitHead : (depth lambdas : Nat) → List Lexeme → List Lexeme × Option (List Lexeme)
  | _, _, [] => ([], none)
  | depth, lambdas, l :: rest =>
    let (depth', lambdas') :=
      match l.token with
      | .mark m =>
        if (closes? m).isSome then (depth + 1, lambdas)
        else if isClosing m then (depth - 1, lambdas)
        else if m == ":" && depth == 0 then (depth, lambdas - 1)
        else (depth, lambdas)
      | .keyword "lambda" => if depth == 0 then (depth, lambdas + 1) else (depth, lambdas)
      | _ => (depth, lambdas)
    if l.mark? == some ":" && depth == 0 && lambdas == 0 then ([], some rest)
    else
      let (head, body) := splitHead depth' lambdas' rest
      (l :: head, body)

/-- The tokens from the first one on that is a given mark outside all brackets. -/
def firstMark (mark : String) : (depth : Nat) → List Lexeme → Option (List Lexeme)
  | _, [] => none
  | depth, l :: rest =>
    match l.mark? with
    | none => firstMark mark depth rest
    | some m =>
      if m == mark && depth == 0 then some (l :: rest)
      else if (closes? m).isSome then firstMark mark (depth + 1) rest
      else if isClosing m then firstMark mark (depth - 1) rest
      else firstMark mark depth rest

/-- The words that can stand in the head of a clause. -/
def Clause.innerWords : Clause → List String
  | .condition "with" | .handler => "as" :: Sandbox.innerWords
  | _ => Sandbox.innerWords

/-- What is wrong with the head of a clause, which `after` follows, if something is. -/
def Clause.headFault? (c : Clause) (head after : List Lexeme) : Option Stumble :=
  match firstOf (firstOutside c.innerWords head) (firstStray 0 head) with
  | some rest => some { rest := rest ++ after }
  | none =>
    match c with
    | .attempt | .orElse | .atLast =>
      if head.isEmpty then none else some ⟨head ++ after, "expected ':'"⟩
    | .handler =>
      match firstMark "," 0 head, firstOutside [] head with
      | some _, none => some ⟨head ++ after, "multiple exception types must be parenthesized"⟩
      | _, _ => none
    | .function =>
      match readName head with
      | .error s => some { s with rest := s.rest ++ after }
      | .ok (_, rest) =>
        if beginsWithMark "(" rest then none else some ⟨rest ++ after, "expected '('"⟩
    | .type =>
      match readName head with
      | .error s => some { s with rest := s.rest ++ after }
      | .ok (_, rest) =>
        if rest.isEmpty || beginsWithMark "(" rest then none else some { rest := rest ++ after }
    | .condition "if" | .condition "while" | .elif =>
      if head.isEmpty then some { rest := after }
      else (firstMark "=" 0 head).map fun rest =>
        ⟨rest ++ after, "invalid syntax. Maybe you meant '==' or ':=' instead of '='?"⟩
    | .condition _ => if head.isEmpty then some { rest := after } else none

/-- The tokens after the colon that ends the head of a clause. -/
def Clause.afterHead (c : Clause) (line : CodeLine) (lexemes : List Lexeme) :
    Except Fault (List Lexeme) :=
  let (head, body) := splitHead 0 0 lexemes
  let colonOn := lexemes.drop head.length
  match c.headFault? head colonOn, body with
  | some s, _ => .error (s.fault line)
  | none, some body => .ok body
  | none, none => .error (Stumble.fault ⟨[], "expected ':'"⟩ line)

/-- A clause without statements; the fault lies at the next line of code, or else at the end of the
    text. -/
def missingBody (c : Clause) (head : CodeLine) (last : PhysicalLine) (rest : List CodeLine) :
    Fault :=
  let wording := "expected an indented block after " ++ c.title ++ " on line " ++
    decimalText head.first.number
  match rest with
  | line :: _ =>
    ⟨faultAt line.first "IndentationError" wording (some line.first.margin)
      ((line.lexemes.head?.map Lexeme.width).getD 1), .yielding⟩
  | [] => ⟨faultAt last "IndentationError" wording (some last.content.length), .yielding⟩

/-- A line that is indented without need. -/
def needlessIndent (line : CodeLine) : Fault :=
  ⟨faultAt line.first "IndentationError" "unexpected indent" (some (line.first.margin - 1)), .first⟩

/-- The further clauses that belong to a compound statement, collected. -/
structure Clauses where
  handlers : List Tree := []
  orElse : List Tree := []
  atLast : List Tree := []

/-- Whether a clause can come after another one in a compound statement that begins with `first`. -/
def Clause.follows (c before first : Clause) : Bool :=
  match before, c with
  | .condition "if", .elif | .elif, .elif => true
  | .condition "with", _ => false
  | .condition _, .orElse | .elif, .orElse => true
  | .attempt, .handler | .attempt, .atLast => true
  | .handler, .handler | .handler, .orElse | .handler, .atLast => true
  | .orElse, .atLast => first == .attempt
  | _, _ => false

/-- The statement that a first clause and its further clauses make. -/
def Clause.tree (first : Clause) (body : List Tree) (more : Clauses) : Tree :=
  match first with
  | .condition _ | .elif => .branch body more.orElse
  | .attempt => .attempt body more.handlers more.orElse more.atLast
  | .handler => .handler body
  | .function | .type | .orElse | .atLast => .scope body

/-- A `try` must go on with a handler or with what is done at last. -/
def checkAttempt (first : Clause) (more : Clauses) (last : PhysicalLine) (rest : List CodeLine) :
    Except Fault Unit :=
  if first = .attempt && more.handlers.isEmpty && more.atLast.isEmpty then
    let stop : Stumble := ⟨(rest.head?.map CodeLine.lexemes).getD [],
      "expected 'except' or 'finally' block"⟩
    .error ⟨stop.failure (last.ending last.content.length), .yielding⟩
  else .ok ()

/-- What is decorated must follow a decorator. -/
def checkDecorated (last : PhysicalLine) (rest : List CodeLine) : Except Fault Unit :=
  let next := (rest.head?.map CodeLine.lexemes).getD []
  match clause? next with
  | some (.function, _) | some (.type, _) => .ok ()
  | _ =>
    if beginsWithMark "@" next then .ok ()
    else
      .error ⟨Stumble.failure { rest := next } (last.ending last.content.length), .yielding⟩

/-- The statements of a line that begins no compound statement; a decorator is like the expression
    after its sign. -/
def lineStatements (line : CodeLine) (last : PhysicalLine) (rest : List CodeLine) :
    Except Fault (List Tree) :=
  if beginsWithMark "@" line.lexemes then do
    checkDecorated last rest
    simpleStatements line (line.lexemes.drop 1)
  else simpleStatements line line.lexemes

mutual

/-- The statements at an indentation, given the last line of the text. The first argument bounds the
    number of clauses. -/
def readSuite (last : PhysicalLine) (indent : Nat) :
    Nat → List CodeLine → Except Fault (List Tree × List CodeLine)
  | 0, lines => .ok ([], lines)
  | _, [] => .ok ([], [])
  | fuel + 1, line :: rest =>
    if indent < line.indent then .error (needlessIndent line)
    else if line.indent < indent then .ok ([], line :: rest)
    else
      match clause? line.lexemes with
      | none => do
        let here ← lineStatements line last rest
        let (others, left) ← readSuite last indent fuel rest
        return (here ++ others, left)
      | some (first, head) =>
        if [Clause.elif, .orElse, .handler, .atLast].contains first then
          .error (Stumble.fault { rest := line.lexemes } line)
        else do
          let (body, left) ← readBody last first line head fuel rest
          let (more, left) ← readClauses last indent first first fuel left
          checkAttempt first more last left
          let (others, left) ← readSuite last indent fuel left
          return (first.tree body more :: others, left)

/-- The statements of a clause: those after the colon on its line, or those indented below it. -/
def readBody (last : PhysicalLine) (c : Clause) (line : CodeLine) (head : List Lexeme) :
    Nat → List CodeLine → Except Fault (List Tree × List CodeLine)
  | 0, lines => .ok ([], lines)
  | fuel + 1, lines => do
    let here ← c.afterHead line head
    if !here.isEmpty then
      let statements ← simpleStatements line here
      return (statements, lines)
    else match lines with
      | next :: rest =>
        if line.indent < next.indent then readSuite last next.indent fuel (next :: rest)
        else .error (missingBody c line last (next :: rest))
      | [] => .error (missingBody c line last [])

/-- The further clauses of a statement that begins with `first`, after one of them. -/
def readClauses (last : PhysicalLine) (indent : Nat) (first before : Clause) :
    Nat → List CodeLine → Except Fault (Clauses × List CodeLine)
  | 0, lines => .ok ({}, lines)
  | _, [] => .ok ({}, [])
  | fuel + 1, line :: rest =>
    match clause? line.lexemes with
    | none => .ok ({}, line :: rest)
    | some (c, head) =>
      if line.indent != indent || !c.follows before first then .ok ({}, line :: rest)
      else do
        let (body, left) ← readBody last c line head fuel rest
        let (more, left) ← readClauses last indent first c fuel left
        return (match c with
          | .elif => { orElse := [Clause.tree .elif body more] }
          | .handler => { more with handlers := .handler body :: more.handlers }
          | .atLast => { more with atLast := body }
          | _ => { more with orElse := body }, left)

end

/-! ## Whole texts -/

/-- The statements of lines of code, which must not be indented all together. -/
def readLines (last : PhysicalLine) (lines : List CodeLine) : Except Fault (List Tree) :=
  match lines with
  | [] => .ok []
  | _ :: _ => (readSuite last 0 (4 * lines.length + 4) lines).map Prod.fst

/-- The number of the line that a failure is in. -/
def lineOf : Failure → Nat
  | .malformed m => m.line
  | _ => 0

/-- Which of two faults is reported: that in the structure of code, or that in its tokens. A bracket
    that is not closed counts only if it was opened in an earlier line. -/
def Fault.against (f : Fault) (lexed : Lexed) : Failure :=
  match f.standing, lexed.fault with
  | .first, _ | _, none => f.failure
  | .ending, some g => g
  | .yielding, some g =>
    if lexed.unclosed && lineOf f.failure ≤ lineOf g then f.failure else g

/-- The statements of a text of code. -/
def treesOf (code : String) : Except Failure (List Tree) :=
  if code.toList.contains (Char.ofNat 0) then
    .error (.raised "ValueError" (some "source code string cannot contain null bytes"))
  else
    let lines := physicalLines code
    let lexed := lex lines
    match readLines (lines.getLast?.getD ⟨1, []⟩) lexed.lines, lexed.fault with
    | .error f, _ => .error (f.against lexed)
    | .ok _, some failure => .error failure
    | .ok trees, none => .ok trees

end AgentScript.Sandbox
