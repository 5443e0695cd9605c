import MarkdownEditor.Command
import MarkdownEditor.CommandLine.Arguments
import MarkdownEditor.CommandLine.Run
import MarkdownEditor.CommandLine.Value
import MarkdownEditor.Decimal.Shortest
import MarkdownEditor.Dictionary
import MarkdownEditor.Editor.Buffer
import MarkdownEditor.Editor.Keymap
import MarkdownEditor.Editor.Session
import MarkdownEditor.Failure
import MarkdownEditor.Fence
import MarkdownEditor.Files.Path
import MarkdownEditor.Files.Shell
import MarkdownEditor.Files.Tree
import MarkdownEditor.Formatting
import MarkdownEditor.Grammar.Basic
import MarkdownEditor.Grammar.Bundled
import MarkdownEditor.Grammar.Context
import MarkdownEditor.Grammar.Pattern
import MarkdownEditor.Grammar.Samples
import MarkdownEditor.Highlight
import MarkdownEditor.Json.Check
import MarkdownEditor.Json.Fault
import MarkdownEditor.Json.Number
import MarkdownEditor.Json.Reader
import MarkdownEditor.Json.Scalar
import MarkdownEditor.Json.Skip
import MarkdownEditor.Json.Value
import MarkdownEditor.Language.Alias
import MarkdownEditor.Main
import MarkdownEditor.Markup.Escape
import MarkdownEditor.Markup.Span
import MarkdownEditor.Preview.Address
import MarkdownEditor.Preview.BareLink
import MarkdownEditor.Preview.BlockReader
import MarkdownEditor.Preview.Cursor
import MarkdownEditor.Preview.Delimiter
import MarkdownEditor.Preview.Document
import MarkdownEditor.Preview.Entity
import MarkdownEditor.Preview.EntityTable
import MarkdownEditor.Preview.InlineReader
import MarkdownEditor.Preview.LineStart
import MarkdownEditor.Preview.Outline
import MarkdownEditor.Preview.Reference
import MarkdownEditor.Preview.Render
import MarkdownEditor.Preview.TableRow
import MarkdownEditor.Preview.Tag
import MarkdownEditor.Preview.Target
import MarkdownEditor.Proofs.CommandLine.Format
import MarkdownEditor.Proofs.CommandLine.Selection
import MarkdownEditor.Proofs.Editor.BoundedHistory
import MarkdownEditor.Proofs.Editor.Call
import MarkdownEditor.Proofs.Editor.ChangingLimit
import MarkdownEditor.Proofs.Editor.Command
import MarkdownEditor.Proofs.Editor.Interleaving
import MarkdownEditor.Proofs.Editor.Timeline
import MarkdownEditor.Proofs.Editor.VisibleStep
import MarkdownEditor.Proofs.Fence.Append
import MarkdownEditor.Proofs.Fence.Line
import MarkdownEditor.Proofs.Fence.LineEnding
import MarkdownEditor.Proofs.Fence.Reading
import MarkdownEditor.Proofs.Fence.Retag
import MarkdownEditor.Proofs.Fence.Scan
import MarkdownEditor.Proofs.Fence.Slice
import MarkdownEditor.Proofs.Files.Ancestor
import MarkdownEditor.Proofs.Files.Fault
import MarkdownEditor.Proofs.Files.Growth
import MarkdownEditor.Proofs.Files.Path
import MarkdownEditor.Proofs.Files.Place
import MarkdownEditor.Proofs.Files.World
import MarkdownEditor.Proofs.Formatting.Framed
import MarkdownEditor.Proofs.Formatting.InlineOrbit
import MarkdownEditor.Proofs.Formatting.Link
import MarkdownEditor.Proofs.Formatting.ListOrbit
import MarkdownEditor.Proofs.Formatting.ListToggle
import MarkdownEditor.Proofs.Formatting.Outcome
import MarkdownEditor.Proofs.Formatting.SelectedText
import MarkdownEditor.Proofs.Formatting.Stretch
import MarkdownEditor.Proofs.Grammar.Append
import MarkdownEditor.Proofs.Grammar.Merge
import MarkdownEditor.Proofs.Grammar.Run
import MarkdownEditor.Proofs.Grammar.ScopeClass
import MarkdownEditor.Proofs.Highlight.Dispatch
import MarkdownEditor.Proofs.Highlight.Isolation
import MarkdownEditor.Proofs.Highlight.Lossless
import MarkdownEditor.Proofs.Highlight.Spelling
import MarkdownEditor.Proofs.Json.Bracketed
import MarkdownEditor.Proofs.Json.Decoded
import MarkdownEditor.Proofs.Json.Numeral
import MarkdownEditor.Proofs.Json.Printed
import MarkdownEditor.Proofs.Json.Skip
import MarkdownEditor.Proofs.Json.Spelled
import MarkdownEditor.Proofs.Json.Term
import MarkdownEditor.Proofs.Language.Alias
import MarkdownEditor.Proofs.Machine.Command
import MarkdownEditor.Proofs.Machine.Step
import MarkdownEditor.Proofs.Markup.Decoder
import MarkdownEditor.Proofs.Markup.Escaped
import MarkdownEditor.Proofs.Markup.Mark
import MarkdownEditor.Proofs.Markup.Strip
import MarkdownEditor.Proofs.Markup.Unescape
import MarkdownEditor.Proofs.Settings.Atomic
import MarkdownEditor.Proofs.Settings.Decoded
import MarkdownEditor.Proofs.Settings.Initial
import MarkdownEditor.Proofs.Settings.Partial
import MarkdownEditor.Proofs.Settings.RoundTrip
import MarkdownEditor.Proofs.Settings.Sanitized
import MarkdownEditor.Proofs.Settings.Store
import MarkdownEditor.Proofs.Text.Conversion
import MarkdownEditor.Proofs.Text.Line
import MarkdownEditor.Proofs.Text.Offset
import MarkdownEditor.Proofs.Text.Utf8
import MarkdownEditor.Selection
import MarkdownEditor.Settings.Printer
import MarkdownEditor.Settings.Reader
import MarkdownEditor.Settings.Store
import MarkdownEditor.Text.Ascii
import MarkdownEditor.Text.Basic
import MarkdownEditor.Text.Blank
import MarkdownEditor.Text.CaseTable
import MarkdownEditor.Text.ControlSequence
import MarkdownEditor.Text.Lines
import MarkdownEditor.Text.Lowercase
import MarkdownEditor.Text.Punctuation
import MarkdownEditor.Text.Quoted
import MarkdownEditor.Text.Utf8
import MarkdownEditor.Text.WordChar
