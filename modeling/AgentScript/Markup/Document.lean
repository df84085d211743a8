import AgentScript.Markup.Html

set_option autoImplicit false

/-! # Documents

A document is read in three steps: fenced code and blocks of HTML are kept aside, the lines that are
left are placed in blocks, and the blocks are written. Only then the text inside the blocks is read,
because a reference may be defined after its use. -/

namespace AgentScript.Markup

/-- The blocks of a document, and what the text in them may draw on. -/
def documentOf (text : String) : List Block × Resources :=
  let lines := linesOf text
  let (lines, insets) := (keepFences lines.length lines >>= keepHtml).run {}
  let (blocks, references) := blocksOf lines
  (blocks, { references := references, insets := insets })

/-- A document as HTML. -/
def render (text : String) : String :=
  if (Text.strip text).isEmpty then ""
  else
    let (blocks, resources) := documentOf text
    Text.strip (String.ofList (writeBlocks resources blocks))

end AgentScript.Markup
