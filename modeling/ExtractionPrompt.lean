import ExtractionPrompt.Config.Basic
import ExtractionPrompt.Config.Decode
import ExtractionPrompt.Config.Encode
import ExtractionPrompt.Config.Rule
import ExtractionPrompt.Config.Vocabulary
import ExtractionPrompt.Decode.Basic
import ExtractionPrompt.Decode.Choice
import ExtractionPrompt.Decode.Fault
import ExtractionPrompt.Decode.Record
import ExtractionPrompt.Http.Body
import ExtractionPrompt.Http.MediaType
import ExtractionPrompt.Http.Response
import ExtractionPrompt.Http.Service
import ExtractionPrompt.Http.Target
import ExtractionPrompt.Json.Basic
import ExtractionPrompt.Json.Collect
import ExtractionPrompt.Json.Fault
import ExtractionPrompt.Json.Lexeme
import ExtractionPrompt.Json.Printer
import ExtractionPrompt.Json.Reader
import ExtractionPrompt.Json.Skip
import ExtractionPrompt.Key.Basic
import ExtractionPrompt.Key.Collision
import ExtractionPrompt.Number.Binary64
import ExtractionPrompt.Number.Layout
import ExtractionPrompt.Number.Shortest
import ExtractionPrompt.Prompt.Compile
import ExtractionPrompt.Prompt.RuleLine
import ExtractionPrompt.Prompt.Wording
import ExtractionPrompt.Proofs.Config.Fits
import ExtractionPrompt.Proofs.Config.RoundTrip
import ExtractionPrompt.Proofs.Decode.Encoded
import ExtractionPrompt.Proofs.Decode.Free
import ExtractionPrompt.Proofs.Decode.Given
import ExtractionPrompt.Proofs.Except
import ExtractionPrompt.Proofs.Json.Escape
import ExtractionPrompt.Proofs.Json.ReadBack
import ExtractionPrompt.Proofs.Json.Texts
import ExtractionPrompt.Proofs.Number.Numeral
import ExtractionPrompt.Proofs.Prompt.FieldLines
import ExtractionPrompt.Proofs.Prompt.Slot
import ExtractionPrompt.Proofs.Prompt.Template
import ExtractionPrompt.Proofs.Prompt.Texts
import ExtractionPrompt.Proofs.Registry.Creation
import ExtractionPrompt.Proofs.Registry.LifeCycle
import ExtractionPrompt.Proofs.Registry.Lookup
import ExtractionPrompt.Proofs.Registry.Numbering
import ExtractionPrompt.Proofs.Submission.Acceptance
import ExtractionPrompt.Proofs.Text.Excerpt
import ExtractionPrompt.Proofs.Text.Paragraph
import ExtractionPrompt.Proofs.Text.Token
import ExtractionPrompt.Registry.Identifier
import ExtractionPrompt.Registry.Instant
import ExtractionPrompt.Registry.Service
import ExtractionPrompt.Registry.Session
import ExtractionPrompt.Registry.Store
import ExtractionPrompt.Settings
import ExtractionPrompt.Submission.Check
import ExtractionPrompt.Submission.Derivation
import ExtractionPrompt.Submission.Prepare
import ExtractionPrompt.Text.Blank
import ExtractionPrompt.Text.Lowercase
import ExtractionPrompt.Text.Numeral
import ExtractionPrompt.Text.Percent
import ExtractionPrompt.Text.Pieces
import ExtractionPrompt.Text.Printable
import ExtractionPrompt.Text.Quoted
import ExtractionPrompt.Text.Substitute
import ExtractionPrompt.Proofs.Prompt.RuleLine
import ExtractionPrompt.Proofs.Prompt.Block
import ExtractionPrompt.Proofs.Prompt.Sections
import ExtractionPrompt.Proofs.Prompt.Filling
import ExtractionPrompt.Proofs.Key.Collision
import ExtractionPrompt.Proofs.Prompt.Fallback
import ExtractionPrompt.Proofs.Registry.Refusal
import ExtractionPrompt.Proofs.Http.Call
import ExtractionPrompt.Proofs.Http.Outage
import ExtractionPrompt.Proofs.Http.History
import ExtractionPrompt.Proofs.Json.Reordered
import ExtractionPrompt.Proofs.Json.ReadValue
import ExtractionPrompt.Proofs.Decode.OrderFree
import ExtractionPrompt.Proofs.Config.OrderFree
import ExtractionPrompt.Proofs.Key.NormalForm
import ExtractionPrompt.Proofs.Key.Words
import ExtractionPrompt.Proofs.Key.ReportOrder
import ExtractionPrompt.Proofs.Decode.Pruned
import ExtractionPrompt.Proofs.Config.Pruned
import ExtractionPrompt.Proofs.Submission.Issues
import ExtractionPrompt.Proofs.Prompt.SharedKeys
import ExtractionPrompt.Proofs.Submission.Derivation
import ExtractionPrompt.Proofs.Submission.DerivationFrame
import ExtractionPrompt.Proofs.Submission.KeyIssues
import ExtractionPrompt.Proofs.Registry.KeyBlame
import ExtractionPrompt.Proofs.Prompt.Heading
import ExtractionPrompt.Proofs.Prompt.DisplayDefault
import ExtractionPrompt.Proofs.Http.Disclosure
import ExtractionPrompt.Proofs.Settings
