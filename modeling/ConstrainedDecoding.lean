import ConstrainedDecoding.Category
import ConstrainedDecoding.Engine.Basic
import ConstrainedDecoding.Engine.Matchers
import ConstrainedDecoding.Engine.Regular
import ConstrainedDecoding.Engine.Scripted
import ConstrainedDecoding.Fault
import ConstrainedDecoding.FilePath
import ConstrainedDecoding.Grammar.Basic
import ConstrainedDecoding.Grammar.Compare
import ConstrainedDecoding.Grammar.Interchange
import ConstrainedDecoding.Hub.Address
import ConstrainedDecoding.Hub.AddressProblem
import ConstrainedDecoding.Hub.Canonical
import ConstrainedDecoding.Hub.Download
import ConstrainedDecoding.Hub.Exchange
import ConstrainedDecoding.Hub.Host
import ConstrainedDecoding.Hub.Reference
import ConstrainedDecoding.Hub.Status
import ConstrainedDecoding.Json.Basic
import ConstrainedDecoding.Json.Compare
import ConstrainedDecoding.Json.Fields
import ConstrainedDecoding.Json.Order
import ConstrainedDecoding.Json.Payload
import ConstrainedDecoding.Json.Reader
import ConstrainedDecoding.Json.Writer
import ConstrainedDecoding.Live.Basic
import ConstrainedDecoding.Live.Compare
import ConstrainedDecoding.Live.Convert
import ConstrainedDecoding.Live.Display
import ConstrainedDecoding.Masking.Applier
import ConstrainedDecoding.Masking.Processor
import ConstrainedDecoding.Masking.Stage
import ConstrainedDecoding.Number.Binary64
import ConstrainedDecoding.Number.Decimal
import ConstrainedDecoding.Oracle.Automata
import ConstrainedDecoding.Oracle.Basic
import ConstrainedDecoding.Position
import ConstrainedDecoding.Regular.Basic
import ConstrainedDecoding.Regular.Pattern
import ConstrainedDecoding.Regular.Rules
import ConstrainedDecoding.Regular.Values
import ConstrainedDecoding.Scores.Basic
import ConstrainedDecoding.Scores.Candidates
import ConstrainedDecoding.Session.Basic
import ConstrainedDecoding.Session.Request
import ConstrainedDecoding.Settings
import ConstrainedDecoding.Text.Base64
import ConstrainedDecoding.Text.Basic
import ConstrainedDecoding.Text.Blank
import ConstrainedDecoding.Text.DecimalDigit
import ConstrainedDecoding.Text.DomainLetter
import ConstrainedDecoding.Text.Encoding
import ConstrainedDecoding.Text.Hex
import ConstrainedDecoding.Text.Integer
import ConstrainedDecoding.Text.Lowercase
import ConstrainedDecoding.Text.Percent
import ConstrainedDecoding.Text.Printable
import ConstrainedDecoding.Text.Punycode
import ConstrainedDecoding.Text.Quoted
import ConstrainedDecoding.Tokenizer.AddedTokens
import ConstrainedDecoding.Tokenizer.Draft
import ConstrainedDecoding.Tokenizer.File
import ConstrainedDecoding.Tokenizer.Roles
import ConstrainedDecoding.Tokenizer.Running
import ConstrainedDecoding.Vocabulary.AddedToken
import ConstrainedDecoding.Vocabulary.Basic
import ConstrainedDecoding.Vocabulary.ByteTable
import ConstrainedDecoding.Vocabulary.Bytes
import ConstrainedDecoding.Vocabulary.Interchange
import ConstrainedDecoding.Vocabulary.Loose
import ConstrainedDecoding.Proofs.Number.Format
import ConstrainedDecoding.Proofs.Number.Height
import ConstrainedDecoding.Proofs.Oracle.Rules
import ConstrainedDecoding.Proofs.Scores.Ranking
import ConstrainedDecoding.Proofs.Session.Outline
import ConstrainedDecoding.Proofs.Oracle.Automata
import ConstrainedDecoding.Proofs.Session.Cache
import ConstrainedDecoding.Proofs.Session.History
import ConstrainedDecoding.Proofs.Session.Reachable
import ConstrainedDecoding.Proofs.Masking.Reference
import ConstrainedDecoding.Proofs.Masking.Applier
import ConstrainedDecoding.Proofs.Masking.Greedy
import ConstrainedDecoding.Proofs.Oracle.Watched
import ConstrainedDecoding.Proofs.Session.Stranded
import ConstrainedDecoding.Proofs.Masking.Tracking
import ConstrainedDecoding.Proofs.Engine.Descent
import ConstrainedDecoding.Proofs.Engine.Reuse
import ConstrainedDecoding.Proofs.Masking.FullDepth
import ConstrainedDecoding.Proofs.Engine.Coherence
import ConstrainedDecoding.Proofs.Session.Validation
import ConstrainedDecoding.Proofs.Json.Parts
import ConstrainedDecoding.Proofs.Json.RoundTrip
import ConstrainedDecoding.Proofs.Outcomes
import ConstrainedDecoding.Proofs.Text.Utf8
import ConstrainedDecoding.Proofs.Text.Integer
import ConstrainedDecoding.Proofs.Json.Live
import ConstrainedDecoding.Proofs.Vocabulary.RoundTrip
import ConstrainedDecoding.Proofs.Number.Written
import ConstrainedDecoding.Proofs.Json.Ascii
import ConstrainedDecoding.Proofs.Json.Arranged
import ConstrainedDecoding.Proofs.Json.Unique
import ConstrainedDecoding.Proofs.Json.Equal
import ConstrainedDecoding.Proofs.Grammar.SchemaText
import ConstrainedDecoding.Proofs.Grammar.Hash
import ConstrainedDecoding.Proofs.Vocabulary.Ids
import ConstrainedDecoding.Proofs.Tokenizer.Roles
import ConstrainedDecoding.Proofs.Tokenizer.File
import ConstrainedDecoding.Proofs.Grammar.Wire
import ConstrainedDecoding.Proofs.Session.Place
import ConstrainedDecoding.Proofs.Engine.FailedReset
import ConstrainedDecoding.Proofs.Scores.Rows
import ConstrainedDecoding.Proofs.Session.Steady
import ConstrainedDecoding.Proofs.Masking.Independence
import ConstrainedDecoding.Proofs.Number.Rounding
import ConstrainedDecoding.Proofs.Scores.Selection
import ConstrainedDecoding.Proofs.Scores.Doubles
import ConstrainedDecoding.Proofs.Vocabulary.Splitting
import ConstrainedDecoding.Proofs.Engine.ControlTokens
import ConstrainedDecoding.Proofs.Text.Numeral
import ConstrainedDecoding.Proofs.Vocabulary.Fallback
import ConstrainedDecoding.Proofs.Vocabulary.Alphabet
import ConstrainedDecoding.Proofs.Tokenizer.Resolution
import ConstrainedDecoding.Proofs.Tokenizer.Lookup
import ConstrainedDecoding.Proofs.Tokenizer.Bare
import ConstrainedDecoding.Proofs.Tokenizer.Agreement
import ConstrainedDecoding.Proofs.Tokenizer.Flags
import ConstrainedDecoding.Proofs.Tokenizer.ReadBack
import ConstrainedDecoding.Proofs.Vocabulary.Merges
import ConstrainedDecoding.Proofs.Masking.Ownership
import ConstrainedDecoding.Proofs.Masking.Tally
import ConstrainedDecoding.Proofs.Session.Frugal
import ConstrainedDecoding.Proofs.Masking.Asking
import ConstrainedDecoding.Proofs.Text.Cuts
import ConstrainedDecoding.Proofs.Grammar.StartHeader
import ConstrainedDecoding.Proofs.Engine.Bitmask
