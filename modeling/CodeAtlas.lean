import CodeAtlas.Atlas.Basic
import CodeAtlas.Atlas.Build
import CodeAtlas.Atlas.Scan
import CodeAtlas.Bundles.Record
import CodeAtlas.Bundles.Resolve
import CodeAtlas.Bundles.Slug
import CodeAtlas.Classify.Basic
import CodeAtlas.Classify.Entry
import CodeAtlas.Classify.Labels
import CodeAtlas.Classify.Purpose
import CodeAtlas.Classify.Record
import CodeAtlas.Command.Arguments
import CodeAtlas.Command.Request
import CodeAtlas.Command.Run
import CodeAtlas.Digest.Block
import CodeAtlas.Digest.Md5
import CodeAtlas.Digest.Sha256
import CodeAtlas.Document.Basic
import CodeAtlas.Document.Cast
import CodeAtlas.Document.Display
import CodeAtlas.Document.Parser
import CodeAtlas.Document.Printer
import CodeAtlas.Embedding.ArrayFile
import CodeAtlas.Embedding.Backend
import CodeAtlas.Embedding.Basic
import CodeAtlas.Embedding.Cache
import CodeAtlas.Embedding.Hashing
import CodeAtlas.Embedding.Tokens
import CodeAtlas.Fault
import CodeAtlas.Files.Decode
import CodeAtlas.Files.Location
import CodeAtlas.Files.Workspace
import CodeAtlas.Index.Basic
import CodeAtlas.Index.Precomputed
import CodeAtlas.Index.Ranking
import CodeAtlas.Index.Search
import CodeAtlas.Keyed
import CodeAtlas.Main
import CodeAtlas.Number.Binary
import CodeAtlas.Number.Fixed
import CodeAtlas.Number.Read
import CodeAtlas.Number.Shortest
import CodeAtlas.Pattern.Basic
import CodeAtlas.Pattern.Folding
import CodeAtlas.Pattern.Reader
import CodeAtlas.Pattern.Search
import CodeAtlas.Pattern.Width
import CodeAtlas.Proofs.Atlas.Exactness
import CodeAtlas.Proofs.Atlas.History
import CodeAtlas.Proofs.Atlas.Identity
import CodeAtlas.Proofs.Atlas.Overlap
import CodeAtlas.Proofs.Atlas.Supersession
import CodeAtlas.Proofs.Classify.Identity
import CodeAtlas.Proofs.Embedding.Backend
import CodeAtlas.Proofs.Embedding.Cache
import CodeAtlas.Proofs.Index.Storing
import CodeAtlas.Proofs.Keyed
import CodeAtlas.Proofs.Pattern.CharSet
import CodeAtlas.Proofs.Pattern.Greedy
import CodeAtlas.Proofs.Pattern.Groups
import CodeAtlas.Proofs.Pattern.Matches
import CodeAtlas.Proofs.Pattern.Reach
import CodeAtlas.Proofs.Pattern.Taken
import CodeAtlas.Proofs.Settings
import CodeAtlas.Proofs.Source.Anchoring
import CodeAtlas.Proofs.Source.Calls
import CodeAtlas.Proofs.Source.Line
import CodeAtlas.Proofs.Source.Marks
import CodeAtlas.Proofs.Source.Shape
import CodeAtlas.Proofs.Source.Span
import CodeAtlas.Proofs.Text.Distinct
import CodeAtlas.Proofs.Text.Trim
import CodeAtlas.Rules.Basic
import CodeAtlas.Rules.Book
import CodeAtlas.Rules.Build
import CodeAtlas.Rules.Builtin
import CodeAtlas.Rules.Condition
import CodeAtlas.Rules.Source
import CodeAtlas.Settings
import CodeAtlas.Source.Block
import CodeAtlas.Source.Complexity
import CodeAtlas.Source.Extract
import CodeAtlas.Source.Path
import CodeAtlas.Source.Problem
import CodeAtlas.Source.Shape
import CodeAtlas.Source.Unit
import CodeAtlas.Store
import CodeAtlas.Text.Basic
import CodeAtlas.Text.Blank
import CodeAtlas.Text.CharacterNames
import CodeAtlas.Text.Digit
import CodeAtlas.Text.Identifier
import CodeAtlas.Text.Lower
import CodeAtlas.Text.NameTable
import CodeAtlas.Text.Printable
import CodeAtlas.Text.Ranges
import CodeAtlas.Text.Upper
import CodeAtlas.Text.Word
import CodeAtlas.Proofs.Bundles.Slug
import CodeAtlas.Proofs.Bundles.Resolve
import CodeAtlas.Proofs.Rules.Build
import CodeAtlas.Proofs.Rules.Loading
import CodeAtlas.Proofs.Document.Numeral
import CodeAtlas.Proofs.Document.Every
import CodeAtlas.Proofs.Document.Reading
import CodeAtlas.Proofs.Document.Characters
import CodeAtlas.Proofs.Document.RoundTrip
import CodeAtlas.Proofs.Files.Plain
import CodeAtlas.Proofs.Files.Writing
import CodeAtlas.Proofs.Rules.Operations
import CodeAtlas.Proofs.Rules.Backing
import CodeAtlas.Proofs.Rules.Revision
import CodeAtlas.Proofs.Rules.Persistence
import CodeAtlas.Proofs.Rules.Watching
import CodeAtlas.Proofs.Rules.Condition
import CodeAtlas.Proofs.Atlas.Restoring
import CodeAtlas.Proofs.Atlas.Failure
import CodeAtlas.Proofs.Atlas.Recording
import CodeAtlas.Proofs.Atlas.WriteBack
import CodeAtlas.Proofs.Index.Ranking
import CodeAtlas.Proofs.Atlas.Twins
import CodeAtlas.Proofs.Atlas.Counting
import CodeAtlas.Proofs.Atlas.Turns
import CodeAtlas.Proofs.Atlas.Completion
import CodeAtlas.Proofs.Atlas.Sparing
import CodeAtlas.Proofs.Command.Validation
import CodeAtlas.Proofs.Source.Separators
import CodeAtlas.Proofs.Classify.Separators
import CodeAtlas.Proofs.Rules.WellFormed
import CodeAtlas.Proofs.Rules.Combination
import CodeAtlas.Proofs.Source.Locality
import CodeAtlas.Proofs.Pattern.Spelling
import CodeAtlas.Proofs.Pattern.Cut
import CodeAtlas.Proofs.Pattern.Found
import CodeAtlas.Proofs.Source.Origin
import CodeAtlas.Proofs.Source.Words
import CodeAtlas.Proofs.Source.Leads
import CodeAtlas.Proofs.Source.Heading
import CodeAtlas.Proofs.Source.Naming
import CodeAtlas.Proofs.Source.Margin
import CodeAtlas.Proofs.Source.Body
import CodeAtlas.Proofs.Source.Recurrence
import CodeAtlas.Proofs.Source.Stability
import CodeAtlas.Proofs.Source.Size
import CodeAtlas.Proofs.Pattern.Complete
import CodeAtlas.Proofs.Source.Refinement
import CodeAtlas.Proofs.Classify.Exported
import CodeAtlas.Proofs.Pattern.Frame
import CodeAtlas.Proofs.Source.Frame
import CodeAtlas.Proofs.Rules.Recovery
import CodeAtlas.Proofs.Classify.Occurrence
import CodeAtlas.Proofs.Rules.Nesting
import CodeAtlas.Proofs.Classify.Suggestion
import CodeAtlas.Proofs.Classify.Liveness
import CodeAtlas.Proofs.Index.Batching
import CodeAtlas.Proofs.Index.Journal
import CodeAtlas.Proofs.Index.Best
import CodeAtlas.Proofs.Index.OwnLabels
import CodeAtlas.Proofs.Embedding.Counting
import CodeAtlas.Proofs.Text.Runs
import CodeAtlas.Proofs.Embedding.Pieces
import CodeAtlas.Proofs.Embedding.Tokens
import CodeAtlas.Proofs.Embedding.Cosine
import CodeAtlas.Proofs.Index.OwnText
import CodeAtlas.Proofs.Classify.Record
import CodeAtlas.Proofs.Atlas.Classified
import CodeAtlas.Proofs.Command.Scanning
import CodeAtlas.Proofs.Store
import CodeAtlas.Proofs.Bundles.Stored
import CodeAtlas.Proofs.Number.Order
import CodeAtlas.Proofs.Number.Numeric
import CodeAtlas.Proofs.Number.Reading
import CodeAtlas.Proofs.Text.Count
import CodeAtlas.Proofs.Pattern.Tally
import CodeAtlas.Proofs.Source.Complexity
