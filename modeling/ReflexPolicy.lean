import ReflexPolicy.Agenda
import ReflexPolicy.Binary64.Basic
import ReflexPolicy.Binary64.Decimal
import ReflexPolicy.Binary64.Text
import ReflexPolicy.Calendar
import ReflexPolicy.Coalescer.Basic
import ReflexPolicy.Coalescer.Clock
import ReflexPolicy.Coalescer.Run
import ReflexPolicy.Codex.Basic
import ReflexPolicy.Codex.Document
import ReflexPolicy.Codex.File
import ReflexPolicy.Codex.Problem
import ReflexPolicy.Codex.Reading
import ReflexPolicy.Codex.Sections
import ReflexPolicy.Codex.Shipped
import ReflexPolicy.Codex.Version
import ReflexPolicy.CommandLine.Help
import ReflexPolicy.CommandLine.Piece
import ReflexPolicy.CommandLine.Run
import ReflexPolicy.CommandLine.Settings
import ReflexPolicy.CommandLine.Switch
import ReflexPolicy.Detector
import ReflexPolicy.Entries
import ReflexPolicy.Evaluation
import ReflexPolicy.Fault
import ReflexPolicy.File
import ReflexPolicy.Finding
import ReflexPolicy.Handshake
import ReflexPolicy.Json.Reader
import ReflexPolicy.Json.Writer
import ReflexPolicy.Lexicon.Basic
import ReflexPolicy.Lexicon.Claims
import ReflexPolicy.Lexicon.Omission
import ReflexPolicy.Lexicon.Registry
import ReflexPolicy.Lexicon.Rhetoric
import ReflexPolicy.Main
import ReflexPolicy.Number
import ReflexPolicy.Options
import ReflexPolicy.Outcome
import ReflexPolicy.Pattern.Basic
import ReflexPolicy.Pattern.Search
import ReflexPolicy.Policy.Basic
import ReflexPolicy.Policy.Unchecked
import ReflexPolicy.Rejection
import ReflexPolicy.Report
import ReflexPolicy.Request.Basic
import ReflexPolicy.Request.Wire
import ReflexPolicy.Semantic.Reply
import ReflexPolicy.Semantic.Scorer
import ReflexPolicy.Sorting.Basic
import ReflexPolicy.Sorting.Gallop
import ReflexPolicy.Sorting.Merge
import ReflexPolicy.Sorting.Run
import ReflexPolicy.Telemetry
import ReflexPolicy.Telemetry.Shelf
import ReflexPolicy.Text.Basic
import ReflexPolicy.Text.Blank
import ReflexPolicy.Text.Case
import ReflexPolicy.Text.Digit
import ReflexPolicy.Text.Lines
import ReflexPolicy.Text.Printable
import ReflexPolicy.Text.Quoted
import ReflexPolicy.Text.Ranges
import ReflexPolicy.Text.Stream
import ReflexPolicy.Text.Utf8
import ReflexPolicy.Text.Word
import ReflexPolicy.Value.Basic
import ReflexPolicy.Value.Literal
import ReflexPolicy.Value.Order
import ReflexPolicy.Vocabulary
import ReflexPolicy.Yaml.Cursor
import ReflexPolicy.Yaml.Document
import ReflexPolicy.Yaml.Folding
import ReflexPolicy.Yaml.Node
import ReflexPolicy.Yaml.Plain
import ReflexPolicy.Yaml.ReadFault
import ReflexPolicy.Yaml.Supply
import ReflexPolicy.Yaml.Token
import ReflexPolicy.Proofs.Binary64.Order
import ReflexPolicy.Proofs.Codex.Reading
import ReflexPolicy.Proofs.Codex.Sections
import ReflexPolicy.Proofs.Codex.Loading
import ReflexPolicy.Proofs.Request.Checked
import ReflexPolicy.Proofs.Evaluation.Reference
import ReflexPolicy.Proofs.Evaluation.Answer
import ReflexPolicy.Proofs.Agenda.Filled
import ReflexPolicy.Proofs.Coalescer.Moment
import ReflexPolicy.Proofs.Coalescer.Upkeep
import ReflexPolicy.Proofs.Coalescer.Phase
import ReflexPolicy.Proofs.Coalescer.Requests
import ReflexPolicy.Proofs.Coalescer.Turns
import ReflexPolicy.Proofs.Coalescer.SingleFlight
import ReflexPolicy.Proofs.Coalescer.Draining
import ReflexPolicy.Proofs.Coalescer.Time
import ReflexPolicy.Proofs.Coalescer.Debounce
import ReflexPolicy.Proofs.Coalescer.Sleep
import ReflexPolicy.Proofs.Coalescer.Ticks
import ReflexPolicy.Proofs.Evaluation.Raising
import ReflexPolicy.Proofs.Binary64.Places
import ReflexPolicy.Proofs.Handshake.Floor
import ReflexPolicy.Proofs.Coalescer.Endings
import ReflexPolicy.Proofs.Coalescer.Calls
import ReflexPolicy.Proofs.Coalescer.Waiters
import ReflexPolicy.Proofs.Coalescer.Mirror
import ReflexPolicy.Proofs.Coalescer.Sessions
import ReflexPolicy.Proofs.Coalescer.Leaving
import ReflexPolicy.Proofs.Coalescer.Alone
import ReflexPolicy.Proofs.Coalescer.Counted
import ReflexPolicy.Proofs.Evaluation.Demand
import ReflexPolicy.Proofs.Evaluation.Relevance
import ReflexPolicy.Proofs.Codex.BreakingOff
import ReflexPolicy.Proofs.Codex.Faults
import ReflexPolicy.Proofs.Handshake.Defaults
import ReflexPolicy.Proofs.Yaml.Faults
import ReflexPolicy.Proofs.Telemetry.Announcement
import ReflexPolicy.Proofs.Telemetry.Redaction
import ReflexPolicy.Proofs.Detector.Evidence
import ReflexPolicy.Proofs.Detector.Isolation
import ReflexPolicy.Proofs.Sorting.Permutation
import ReflexPolicy.Proofs.Json.Values
import ReflexPolicy.Proofs.Detector.Findings
import ReflexPolicy.Proofs.Detector.Collected
import ReflexPolicy.Proofs.Semantic.Scored
import ReflexPolicy.Proofs.Semantic.Dropping
import ReflexPolicy.Proofs.Report.Shown
import ReflexPolicy.Proofs.CommandLine.Spelling
import ReflexPolicy.Proofs.CommandLine.Wire
import ReflexPolicy.Proofs.CommandLine.Conclusion
import ReflexPolicy.Proofs.Binary64.Monotone
import ReflexPolicy.Proofs.Binary64.Whole
import ReflexPolicy.Proofs.Binary64.Clamped
import ReflexPolicy.Proofs.Binary64.Nearest
import ReflexPolicy.Proofs.Policy.Confidence
import ReflexPolicy.Proofs.Handshake.WrittenFloor
import ReflexPolicy.Proofs.Handshake.Stability
import ReflexPolicy.Proofs.Handshake.Ignoring
import ReflexPolicy.Proofs.Handshake.Failures
import ReflexPolicy.Proofs.Handshake.Respelling
import ReflexPolicy.Proofs.Request.Normal
import ReflexPolicy.Proofs.Request.WellFormed
import ReflexPolicy.Proofs.Request.Keys
import ReflexPolicy.Proofs.Request.Written
import ReflexPolicy.Proofs.Report.Showable
import ReflexPolicy.Proofs.Semantic.Wrapping
import ReflexPolicy.Proofs.Pattern.Carrying
import ReflexPolicy.Proofs.Pattern.Enclosed
import ReflexPolicy.Proofs.Text.LetterCase
import ReflexPolicy.Proofs.Lexicon.WholeWords
import ReflexPolicy.Proofs.Lexicon.Tables
import ReflexPolicy.Proofs.Lexicon.Padding
import ReflexPolicy.Proofs.Pattern.Caseless
import ReflexPolicy.Proofs.Detector.Caseless
import ReflexPolicy.Proofs.Codex.Parts
import ReflexPolicy.Proofs.Codex.Required
import ReflexPolicy.Proofs.Codex.Version
import ReflexPolicy.Proofs.Codex.VersionTold
import ReflexPolicy.Proofs.Codex.Layout
import ReflexPolicy.Proofs.Codex.ReadingBack
import ReflexPolicy.Proofs.Coalescer.Elapse
import ReflexPolicy.Proofs.Coalescer.Dropping
import ReflexPolicy.Proofs.Lexicon.Tabulated
import ReflexPolicy.Proofs.Codex.HandshakeWritten
import ReflexPolicy.Proofs.Coalescer.Untraced
