set_option autoImplicit false

/-! # Insets

Some markup is finished before the text around it is read: fenced code and blocks of HTML. It is
kept aside as an inset, and a mark with the inset's number stands in the text in its place. Markup
that is kept holds no marks itself: where it was found around earlier insets, they are filled in
first. -/

namespace AgentScript.Markup

/-- The marks around the numbers of insets. Texts come without them. -/
def insetOpening : Char := '\x02'

@[inherit_doc insetOpening]
def insetClosing : Char := '\x03'

/-- The finished markup of a document, by its numbers. -/
structure Insets where
  markups : Array (List Char) := #[]

namespace Insets

/-- The markup of the inset with number `k`. -/
def markup (insets : Insets) (k : Nat) : List Char :=
  (insets.markups[k]?).getD []

/-- The number of the mark that a text begins with, and what follows the mark. -/
def mark? : List Char → Option (Nat × List Char)
  | [] => none
  | c :: rest =>
    if c == insetOpening then
      let digits := rest.takeWhile (· != insetClosing)
      (String.ofList digits).toNat?.map fun k => (k, rest.drop (digits.length + 1))
    else none

/-- A text with the markup of insets in place of their marks. -/
def fill (insets : Insets) : Nat → List Char → List Char
  | 0, s => s
  | _, [] => []
  | fuel + 1, c :: rest =>
    match mark? (c :: rest) with
    | some (k, after) => insets.markup k ++ insets.fill fuel after
    | none => c :: insets.fill fuel rest

/-- Keep markup aside; the mark for it is the answer. -/
def keep (markup : List Char) : StateM Insets (List Char) := fun insets =>
  (insetOpening :: (toString insets.markups.size).toList ++ [insetClosing],
    ⟨insets.markups.push (insets.fill markup.length markup)⟩)

end Insets

end AgentScript.Markup
