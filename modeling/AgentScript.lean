import AgentScript.Bindings
import AgentScript.Command.Basic
import AgentScript.Command.Mood
import AgentScript.Command.Reader
import AgentScript.CommandLine.Arguments
import AgentScript.CommandLine.Program
import AgentScript.CommandLine.Usage
import AgentScript.Context.Basic
import AgentScript.Context.Template
import AgentScript.Decimal.Binary
import AgentScript.Decimal.Integer
import AgentScript.Decimal.Shortest
import AgentScript.Dialogue
import AgentScript.Failure
import AgentScript.Generation.Remote
import AgentScript.Interleaving
import AgentScript.Main
import AgentScript.Markup.Block
import AgentScript.Markup.Bracket
import AgentScript.Markup.Document
import AgentScript.Markup.Emphasis
import AgentScript.Markup.Fence
import AgentScript.Markup.Html
import AgentScript.Markup.HtmlBlock
import AgentScript.Markup.Inline
import AgentScript.Markup.Inset
import AgentScript.Markup.Line
import AgentScript.Markup.Link
import AgentScript.Markup.Passage
import AgentScript.Markup.Reference
import AgentScript.Markup.Table
import AgentScript.Markup.Tag
import AgentScript.Proofs.Bindings
import AgentScript.Proofs.Command.Code
import AgentScript.Proofs.Command.Positional
import AgentScript.Proofs.Command.Prompt
import AgentScript.Proofs.Context.Answer
import AgentScript.Proofs.Context.Failure
import AgentScript.Proofs.Context.Interchange
import AgentScript.Proofs.Context.Interpolation
import AgentScript.Proofs.Context.Lookup
import AgentScript.Proofs.Context.Token
import AgentScript.Proofs.Interleaving.Account
import AgentScript.Proofs.Interleaving.Boot
import AgentScript.Proofs.Interleaving.Isolation
import AgentScript.Proofs.Interleaving.Merge
import AgentScript.Proofs.Interleaving.Tracking
import AgentScript.Proofs.Run.Action
import AgentScript.Proofs.Run.Additive
import AgentScript.Proofs.Run.AgentCalls
import AgentScript.Proofs.Run.Agents
import AgentScript.Proofs.Run.Announcement
import AgentScript.Proofs.Run.Answering
import AgentScript.Proofs.Run.Code
import AgentScript.Proofs.Run.Contract
import AgentScript.Proofs.Run.Detail
import AgentScript.Proofs.Run.History
import AgentScript.Proofs.Run.Input
import AgentScript.Proofs.Run.Intact
import AgentScript.Proofs.Run.Logging
import AgentScript.Proofs.Run.Look
import AgentScript.Proofs.Run.Naming
import AgentScript.Proofs.Run.Outcome
import AgentScript.Proofs.Run.Override
import AgentScript.Proofs.Run.Ownership
import AgentScript.Proofs.Run.Passage
import AgentScript.Proofs.Run.Phase
import AgentScript.Proofs.Run.Posting
import AgentScript.Proofs.Run.Report
import AgentScript.Proofs.Run.Requests
import AgentScript.Proofs.Run.Retrace
import AgentScript.Proofs.Run.Sequence
import AgentScript.Proofs.Run.World
import AgentScript.Proofs.Sandbox.Imports
import AgentScript.Proofs.Sandbox.Wrap
import AgentScript.Proofs.Script.Capture
import AgentScript.Proofs.Script.Composition
import AgentScript.Proofs.Script.Extraction
import AgentScript.Proofs.Script.Grammar
import AgentScript.Proofs.Script.LogCalls
import AgentScript.Proofs.Script.Naming
import AgentScript.Proofs.Script.Nesting
import AgentScript.Proofs.Script.Override
import AgentScript.Proofs.Script.Parameters
import AgentScript.Proofs.Script.Printing
import AgentScript.Proofs.Script.Quotes
import AgentScript.Proofs.Script.Scanning
import AgentScript.Proofs.Text.Blank
import AgentScript.Proofs.Text.Division
import AgentScript.Proofs.Text.Line
import AgentScript.Proofs.Text.LineEnd
import AgentScript.Proofs.Text.Lowercase
import AgentScript.Proofs.Text.Markup
import AgentScript.Proofs.Text.Offset
import AgentScript.Proofs.Text.Phrase
import AgentScript.Proofs.Text.Search
import AgentScript.Proofs.Text.Spelling
import AgentScript.Proofs.Text.Word
import AgentScript.Proofs.Value.Depth
import AgentScript.Proofs.Value.JsonNumber
import AgentScript.Proofs.Value.JsonReader
import AgentScript.Proofs.Value.JsonString
import AgentScript.Proofs.Value.JsonText
import AgentScript.Proofs.Value.JsonToken
import AgentScript.Proofs.Value.Path
import AgentScript.Proofs.Value.Writable
import AgentScript.Proofs.Workspace.Card
import AgentScript.Proofs.Workspace.Files
import AgentScript.Proofs.Workspace.Plan
import AgentScript.Proofs.Workspace.Queues
import AgentScript.Run.Basic
import AgentScript.Run.Block
import AgentScript.Run.Dispatch
import AgentScript.Run.Engine
import AgentScript.Run.Script
import AgentScript.Sandbox.Activity
import AgentScript.Sandbox.Engine
import AgentScript.Sandbox.Evaluation
import AgentScript.Sandbox.Expression
import AgentScript.Sandbox.Imports
import AgentScript.Sandbox.Library
import AgentScript.Sandbox.Line
import AgentScript.Sandbox.Numeral
import AgentScript.Sandbox.Object
import AgentScript.Sandbox.Plain
import AgentScript.Sandbox.Token
import AgentScript.Sandbox.Tree
import AgentScript.Sandbox.Wrap
import AgentScript.Script.Arguments
import AgentScript.Script.Blocks
import AgentScript.Script.Parameters
import AgentScript.Script.Statement
import AgentScript.Script.Step
import AgentScript.Session
import AgentScript.Settings
import AgentScript.Text.Blank
import AgentScript.Text.CharSet
import AgentScript.Text.Digit
import AgentScript.Text.Entity
import AgentScript.Text.Identifier
import AgentScript.Text.Lowercase
import AgentScript.Text.Markup
import AgentScript.Text.Phrase
import AgentScript.Text.Printable
import AgentScript.Text.Quoted
import AgentScript.Text.Record
import AgentScript.Text.Search
import AgentScript.Text.Word
import AgentScript.Trace
import AgentScript.Value.Basic
import AgentScript.Value.Json
import AgentScript.Value.JsonReader
import AgentScript.Value.JsonToken
import AgentScript.Value.Literal
import AgentScript.Value.Path
import AgentScript.Workspace.Basic
import AgentScript.Workspace.Message
import AgentScript.World
