import AgentScript.Context.Basic
import AgentScript.Text.Word

set_option autoImplicit false

/-! # Templates

A text may hold tokens: a dotted path in square brackets. Resolving the text replaces every token
whose path leads to a value by the text of that value, in one pass, and leaves all other tokens as
they stand. -/

namespace AgentScript.Context

/-- A part of a template: a character that stands for itself, or a token. -/
inductive Piece where
  | char (c : Char)
  | token (path : List Char)

/-- The path of the token whose opening bracket has been read, and the rest after its closing
    bracket. -/
def tokenPath? (s : List Char) : Option (List Char × List Char) :=
  match s.takeWhile Text.isPathChar, s.dropWhile Text.isPathChar with
  | c :: path, ']' :: rest => some (c :: path, rest)
  | _, _ => none

theorem length_tokenPath? {s path rest : List Char} (h : tokenPath? s = some (path, rest)) :
    rest.length < s.length := by
  have hlen := Value.length_dropWhile_le Text.isPathChar s
  unfold tokenPath? at h
  split at h
  · next hd =>
    simp only [Option.some.injEq, Prod.mk.injEq] at h
    obtain ⟨-, rfl⟩ := h
    rw [hd] at hlen
    simp only [List.length_cons] at hlen
    omega
  · simp at h

/-- The pieces of a text, tokens being found from the left. -/
def pieces : List Char → List Piece
  | [] => []
  | c :: rest =>
    if c = '[' then
      match _h : tokenPath? rest with
      | some (path, after) => .token path :: pieces after
      | none => .char c :: pieces rest
    else .char c :: pieces rest
termination_by s => s.length
decreasing_by
  · exact Nat.lt_succ_of_lt (length_tokenPath? _h)
  · simp
  · simp

/-- The characters that a piece stands for in a context. -/
def Piece.resolve (c : Context) : Piece → Except Failure (List Char)
  | .char x => .ok [x]
  | .token path => do
    match ← c.lookup (String.ofList path) with
    | some v => return (← v.toText).toList
    | none => return '[' :: path ++ [']']

/-- The characters that a list of pieces stands for. -/
def resolvePieces (c : Context) : List Piece → Except Failure (List Char)
  | [] => .ok []
  | p :: rest => do
    let text ← p.resolve c
    let texts ← resolvePieces c rest
    return text ++ texts

/-- The text with every token replaced that leads to a value. -/
def resolve (c : Context) (text : String) : Except Failure String := do
  return String.ofList (← resolvePieces c (pieces text.toList))

/-- Resolve a text that may be absent; an absent one is empty. -/
def resolve? (c : Context) (text : Option String) : Except Failure String :=
  c.resolve (text.getD "")

end AgentScript.Context
