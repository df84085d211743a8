import AgentScript.Text.Blank
import AgentScript.Text.Digit
import AgentScript.Text.Search

set_option autoImplicit false

/-! # Arguments

A command line names one script and may set options. First every argument is told to be an option or
a plain word, whatever stands around it; then the words are taken in order. An option may be written
by any beginning of its name that no other option shares, and its value either follows a `=` or is
the next word. A name of one letter may be followed by more such letters in the same argument, with
or without a `=` between them. The mark that ends the options is never the value of one. -/

namespace AgentScript.CommandLine

/-! ## Options -/

/-- The options of the program. -/
inductive Switch where
  | help
  | verbose
  | prompt
  | promptFile
  | model
  | plan
deriving DecidableEq

namespace Switch

/-- Every name of an option, in the order in which options are listed. -/
def names : List (String × Switch) :=
  [("-h", help), ("--help", help), ("-v", verbose), ("--prompt", prompt),
   ("--prompt-file", promptFile), ("--model", model), ("--plan", plan)]

/-- The option of an exact name. -/
def named? (name : String) : Option Switch :=
  (names.find? fun n => n.1 == name).map Prod.snd

/-- Whether an option has a value. -/
def takesValue : Switch → Bool
  | help | verbose => false
  | _ => true

/-- All names of an option, as complaints show them. -/
def shown (o : Switch) : String :=
  String.intercalate "/" ((names.filter fun n => n.2 == o).map Prod.fst)

/-- The option that must not be given together with this one. -/
def rival? : Switch → Option Switch
  | prompt => some promptFile
  | promptFile => some prompt
  | _ => none

end Switch

/-! ## Usage errors -/

/-- What is wrong with a command line. -/
inductive UsageError where
  /-- An argument begins the names of several options. -/
  | ambiguous (argument : String) (candidates : List String)
  | valueExpected (o : Switch)
  /-- A value is given to an option that has none. -/
  | valueIgnored (o : Switch) (given : String)
  | rivals (o other : Switch)
  | scriptMissing
  | unrecognized (arguments : List String)
deriving DecidableEq

/-! ## Telling options and words apart -/

/-- How an option is written: by a name of one letter or by a longer one, and with what after it in
    the same argument. -/
structure Form where
  short : Bool
  attached : Option String := none

/-- What an argument is. -/
inductive Word where
  /-- The mark after which everything is plain. -/
  | endOfOptions
  | plain (text : String)
  | option (o : Switch) (form : Form)
  /-- An argument that looks like an option and is none. -/
  | unknown (text : String)

/-- Digits, or a point and digits after any number of them. -/
def isNumber (s : List Char) : Bool :=
  let isDecimal (c : Char) := (Text.decimalValue? c).isSome
  match s.dropWhile isDecimal with
  | [] => !s.isEmpty
  | '.' :: fraction => !fraction.isEmpty && fraction.all isDecimal
  | _ => false

/-- Whether an argument that begins with a dash is plain all the same: a negative number, which may
    end its line, or a phrase. -/
def isPlainDespiteDash (argument : List Char) : Bool :=
  let number := argument.drop 1
  isNumber number || (number.getLast? == some '\n' && isNumber number.dropLast) ||
    argument.contains ' '

/-- A dashed argument that is no option. -/
def undashed (argument : String) : Word :=
  if isPlainDespiteDash argument.toList then .plain argument else .unknown argument

/-- A dashed argument that begins the names in a list. -/
def choose (argument : String) (form : Form) : List (String × Switch) → Except UsageError Word
  | [] => .ok (undashed argument)
  | [(_, o)] => .ok (.option o form)
  | several => .error (.ambiguous argument (several.map Prod.fst))

/-- What an argument is that begins with a dash and is not that dash alone. -/
def Word.ofDashed (argument : String) : Except UsageError Word :=
  let short := !Text.beginsWith "--" argument
  let (name, attached) := match Text.cutAt "=" argument with
    | some (name, given) => (name, some given)
    | none => (argument, none)
  match Switch.named? name with
  | some o => .ok (.option o ⟨short, attached⟩)
  | none =>
    if short then
      choose argument ⟨short, some (String.ofList (argument.toList.drop 2))⟩
        (Switch.names.filter fun n => n.1.toList == argument.toList.take 2)
    else
      choose argument ⟨short, attached⟩
        (Switch.names.filter fun n => Text.beginsWith name n.1)

/-- What an argument is, before the mark that ends the options. -/
def Word.ofArgument (argument : String) : Except UsageError Word :=
  match argument.toList with
  | '-' :: _ :: _ => Word.ofDashed argument
  | _ => .ok (.plain argument)

/-- What each argument is. -/
def wordsOf : List String → Except UsageError (List Word)
  | [] => .ok []
  | argument :: rest =>
    if argument == "--" then .ok (.endOfOptions :: rest.map .plain)
    else do
      let word ← Word.ofArgument argument
      return word :: (← wordsOf rest)

/-! ## Taking the words -/

/-- What a command line asks for. -/
structure Invocation where
  script : String
  verbosity : Nat := 0
  /-- The prompt, unless it was given the mark that ends the options. -/
  prompt : Option String := some ""
  promptFile : Option String := none
  model : Option String := none
  plan : List String := []
deriving DecidableEq

/-- Why no script is run. -/
inductive Halt where
  | helpAsked
  | wrong (e : UsageError)
deriving DecidableEq

/-- What has been read of a command line. -/
structure Reading where
  script : Option String := none
  asked : Invocation := { script := "" }
  /-- The options that were given with a value of their own. -/
  given : List Switch := []
  extras : List String := []

namespace Reading

/-- Set an argument aside that means nothing. -/
def setAside (r : Reading) (argument : String) : Reading :=
  { r with extras := r.extras ++ [argument] }

/-- The value that is meant by what is given to an option. -/
def valueOf? (given : String) : Option String :=
  if given == "--" then none else some given

/-- Give an option a value. An empty prompt is what is assumed anyway and rivals nothing. -/
def giveValue (r : Reading) (o : Switch) (given : String) : Except Halt Reading :=
  let value := valueOf? given
  let asked := match o with
    | .prompt => { r.asked with prompt := value }
    | .promptFile => { r.asked with promptFile := value }
    | .model => { r.asked with model := value }
    | .plan => { r.asked with plan := r.asked.plan ++ value.toList }
    | .help | .verbose => r.asked
  if o = .prompt ∧ given = "" then .ok { r with asked := asked }
  else match o.rival?.filter fun other => r.given.contains other with
    | some other => .error (.wrong (.rivals o other))
    | none => .ok { r with asked := asked, given := o :: r.given }

/-- Act on an option that has no value. -/
def flag (r : Reading) : Switch → Except Halt Reading
  | .help => .error .helpAsked
  | .verbose => .ok { r with asked := { r.asked with verbosity := r.asked.verbosity + 1 } }
  | _ => .ok r

/-- The options that the letters after an option stand for, together with it. From the first letter
    on that names none, the letters are a value that the option before them does not have. -/
def lettersOf (o : Switch) : List Char → Except UsageError (List Switch)
  | [] => .ok [o]
  | c :: rest =>
    match Switch.named? (String.ofList ['-', c]) with
    | none => .error (.valueIgnored o (String.ofList (c :: rest)))
    | some next => do return o :: (← lettersOf next rest)

/-- Act on an option that has no value, and on the letters attached to it. -/
def takeFlag (r : Reading) (o : Switch) (form : Form) : Except Halt Reading :=
  let letters := (form.attached.getD "").toList
  if form.attached.isSome && (!form.short || letters.isEmpty) then
    .error (.wrong (.valueIgnored o (String.ofList letters)))
  else match lettersOf o letters with
    | .error e => .error (.wrong e)
    | .ok options => options.foldlM flag r

/-- Take the words one after the other. The mark that ends the options goes with the script if it
    stands beside it. -/
def take (r : Reading) : List Word → Except Halt Reading
  | [] => .ok r
  | .unknown argument :: rest => (r.setAside argument).take rest
  | .option o form :: rest =>
    if o.takesValue then
      match form.attached, rest with
      | some given, rest => do (← r.giveValue o given).take rest
      | none, .plain given :: rest => do (← r.giveValue o given).take rest
      | none, _ => .error (.wrong (.valueExpected o))
    else do (← r.takeFlag o form).take rest
  | .endOfOptions :: .plain argument :: rest =>
    if r.script.isNone then { r with script := some argument }.take rest
    else ((r.setAside "--").setAside argument).take rest
  | .endOfOptions :: rest => (r.setAside "--").take rest
  | .plain argument :: .endOfOptions :: rest =>
    if r.script.isNone then { r with script := some argument }.take rest
    else ((r.setAside argument).setAside "--").take rest
  | .plain argument :: rest =>
    if r.script.isNone then { r with script := some argument }.take rest
    else (r.setAside argument).take rest

/-- What has been asked for, if it is complete and nothing was set aside. -/
def finish (r : Reading) : Except Halt Invocation :=
  match r.script, r.extras with
  | none, _ => .error (.wrong .scriptMissing)
  | some script, [] => .ok { r.asked with script := script }
  | some _, extras => .error (.wrong (.unrecognized extras))

end Reading

/-- What the arguments of a command line ask for. -/
def Invocation.ofArguments (arguments : List String) : Except Halt Invocation :=
  match wordsOf arguments with
  | .error e => .error (.wrong e)
  | .ok words => do (← ({} : Reading).take words).finish

end AgentScript.CommandLine
