import AgentScript.Markup.Inline

set_option autoImplicit false

/-! # Addresses, tags and line breaks

Between angle brackets stand addresses, which are links by themselves, and tags and comments, which
are written as they are. A line breaks after two spaces. -/

namespace AgentScript.Markup

/-- The pieces after an opening angle bracket up to the closing one, if no other is between them,
    and what follows it. -/
def angled? : List Inline → Option (List Inline × List Inline)
  | .char '<' :: s =>
    let body := s.takeWhile fun i => !(i.isChar '<' || i.isChar '>')
    match s.drop body.length with
    | .char '>' :: rest => some (body, rest)
    | _ => none
  | _ => none

/-! ## Addresses -/

/-- The beginnings of addresses that are links by themselves. -/
def addressOpenings : List String := ["http://", "https://", "ftp://", "ftps://"]

/-- Whether pieces begin an address, in letters of any case. -/
def isAddress (s : List Inline) : Bool :=
  addressOpenings.any fun opening =>
    ((s.take opening.length).filterMap Inline.char?).map Char.toLower == opening.toList

/-- Finds addresses. -/
def addressRule : Rule := fun _ s => do
  let (body, rest) ← angled? s
  if isAddress body then some (.found [.address (Inline.plainTextOf body) body] rest) else none

/-- The text of a mailbox; a protected character is spelled out by its number, between the marks of
    insets. -/
def mailboxText (s : List Inline) : List Char :=
  s.flatMap fun i => match i with
    | .literal c => insetOpening :: (toString c.toNat).toList ++ [insetClosing]
    | i => i.plainText

/-- Finds the addresses of mailboxes: two parts around the last at sign, without spaces. -/
def mailboxRule : Rule := fun _ s => do
  let (body, rest) ← angled? s
  let host := (body.reverse.takeWhile fun i => !i.isChar '@').length
  let name := body.take (body.length - host - 1)
  if body.any (Inline.isChar ' ') || host == body.length || host == 0 || name.isEmpty ||
      name.any (Inline.isChar '!') then none
  else
    let address := mailboxText body
    some (.found [.mailbox ((Text.matchText "mailto:".toList address).getD address)] rest)

/-! ## Tags, comments and breaks -/

/-- Whether the text between angle brackets is a tag: a name, a slash before it or not, and
    attributes after a space. -/
def isTag (s : List Inline) : Bool :=
  let named := match s with
    | .char '/' :: rest => rest
    | s => s
  let name := named.takeWhile fun i => !i.isChar ' '
  (name.head?.bind Inline.char?).any Char.isAlpha && !name.any (Inline.isChar '@')

/-- Whether pieces begin with some text. -/
def beginWith (word : String) (s : List Inline) : Bool :=
  (s.take word.length).filterMap Inline.char? == word.toList

/-- The pieces up to the end of a comment, in which no other comment begins, and what follows it. -/
def upToCommentEnd : List Inline → Option (List Inline × List Inline)
  | [] => none
  | i :: rest =>
    if beginWith "-->" (i :: rest) then some ((i :: rest).take 3, rest.drop 2)
    else if beginWith "<!--" (i :: rest) then none
    else (upToCommentEnd rest).map fun (body, rest) => (i :: body, rest)

/-- Finds tags and comments. -/
def tagRule : Rule := fun _ s =>
  let tag? := (angled? s).bind fun (body, rest) =>
    if isTag body then some (.found [.tag (.char '<' :: body ++ [.char '>'])] rest) else none
  let comment? :=
    if beginWith "<!--" s then
      (upToCommentEnd (s.drop 4)).map fun (body, rest) => .found [.tag (s.take 4 ++ body)] rest
    else none
  tag?.or comment?

/-- Find the line breaks: two spaces at the end of a line. -/
def findBreaks : List Inline → List Inline
  | .char ' ' :: .char ' ' :: .char '\n' :: rest => .lineBreak :: findBreaks rest
  | i :: rest => i :: findBreaks rest
  | [] => []

end AgentScript.Markup
