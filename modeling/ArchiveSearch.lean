import ArchiveSearch.Text.Blank
import ArchiveSearch.Text.Case
import ArchiveSearch.Text.Quoted
import ArchiveSearch.Number.Decimal
import ArchiveSearch.Json.Draft
import ArchiveSearch.Json.Printer
import ArchiveSearch.Calendar.Instant
import ArchiveSearch.Digest.Blake3
import ArchiveSearch.Digest.Sha256
import ArchiveSearch.Filter.Basic
import ArchiveSearch.Filter.Column
import ArchiveSearch.Filter.Decoding
import ArchiveSearch.Filter.Encoding
import ArchiveSearch.Filter.Payload
import ArchiveSearch.Query.Condition
import ArchiveSearch.Query.Simplify
import ArchiveSearch.Cache.Key
import ArchiveSearch.Query.IndexAdvice
import ArchiveSearch.Query.Plan
import ArchiveSearch.Query.Statement
import ArchiveSearch.Suggest.Vocabulary
import ArchiveSearch.Settings
import ArchiveSearch.Cache.Flight
import ArchiveSearch.Cache.Pruner
import ArchiveSearch.Cache.Snapshot
import ArchiveSearch.Pattern.Reader
import ArchiveSearch.Search.Engine
import ArchiveSearch.Search.Searcher
import ArchiveSearch.Suggest.Ranker
import ArchiveSearch.Search.FullTextIndex
import ArchiveSearch.Search.Database
import ArchiveSearch.Files.Opening
import ArchiveSearch.Command.Request
import ArchiveSearch.Command.Arguments
import ArchiveSearch.Main
import ArchiveSearch.Proofs.Text.Trimming
import ArchiveSearch.Proofs.Pairs
import ArchiveSearch.Proofs.Suggest.History
import ArchiveSearch.Proofs.Suggest.Representation
import ArchiveSearch.Proofs.Query.Alignment
import ArchiveSearch.Proofs.Query.Meaning
import ArchiveSearch.Proofs.Formula.Conditions
import ArchiveSearch.Proofs.Formula.Constants
import ArchiveSearch.Proofs.Formula.Peeling
import ArchiveSearch.Proofs.Formula.Reading
import ArchiveSearch.Proofs.Simplify.Cutting
import ArchiveSearch.Proofs.Simplify.Doubled
import ArchiveSearch.Proofs.Simplify.Fixpoint
import ArchiveSearch.Proofs.Simplify.Layouts
import ArchiveSearch.Proofs.Simplify.Neutral
import ArchiveSearch.Proofs.Simplify.NormalForm
import ArchiveSearch.Proofs.Simplify.Peeling
import ArchiveSearch.Proofs.Simplify.Squeezing
import ArchiveSearch.Proofs.Simplify.Meaning
import ArchiveSearch.Proofs.Number.Layout
import ArchiveSearch.Proofs.Number.Rounding
import ArchiveSearch.Proofs.Search.FullTextIndex
import ArchiveSearch.Proofs.Json.Compact
import ArchiveSearch.Proofs.Cache.Alone
import ArchiveSearch.Proofs.Cache.Keys
import ArchiveSearch.Proofs.Search.Requests
import ArchiveSearch.Proofs.Search.Transparency
import ArchiveSearch.Proofs.Cache.Coalescing
import ArchiveSearch.Proofs.Cache.Removal
import ArchiveSearch.Proofs.Calendar.Days
import ArchiveSearch.Proofs.Calendar.Reading
import ArchiveSearch.Proofs.Calendar.Instants
import ArchiveSearch.Proofs.Number.Whole
import ArchiveSearch.Proofs.Json.Records
import ArchiveSearch.Proofs.Json.Data
import ArchiveSearch.Proofs.Json.Reading
import ArchiveSearch.Proofs.Filter.Values
import ArchiveSearch.Proofs.Filter.Decoding
import ArchiveSearch.Proofs.Filter.Fields
import ArchiveSearch.Proofs.Filter.Payload
import ArchiveSearch.Proofs.Filter.Compilation
import ArchiveSearch.Proofs.Filter.RoundTrip
import ArchiveSearch.Proofs.Filter.Written
import ArchiveSearch.Proofs.Filter.Stability
import ArchiveSearch.Proofs.Json.Numbers
import ArchiveSearch.Proofs.Json.RoundTrip
import ArchiveSearch.Proofs.Json.Arranged
import ArchiveSearch.Proofs.Filter.Data
import ArchiveSearch.Proofs.Filter.Binding
import ArchiveSearch.Proofs.Suggest.Stores
import ArchiveSearch.Proofs.Suggest.Persistence
import ArchiveSearch.Proofs.Lists
import ArchiveSearch.Proofs.Cache.Entries
import ArchiveSearch.Proofs.Cache.Writes
import ArchiveSearch.Proofs.Cache.Recency
import ArchiveSearch.Proofs.Cache.Snapshots
import ArchiveSearch.Proofs.Query.Shapes
import ArchiveSearch.Proofs.Query.Weaving
import ArchiveSearch.Proofs.Search.Sharing
import ArchiveSearch.Proofs.Simplify.Heads
import ArchiveSearch.Proofs.Query.Tables
import ArchiveSearch.Proofs.Search.Statements
import ArchiveSearch.Proofs.Search.Readings
import ArchiveSearch.Proofs.Search.Dropping
import ArchiveSearch.Proofs.Files.Reopening
import ArchiveSearch.Proofs.Command.Runs
import ArchiveSearch.Proofs.Query.Selection
import ArchiveSearch.Proofs.Query.Retrieval
import ArchiveSearch.Proofs.Simplify.Walls
import ArchiveSearch.Proofs.Simplify.Spared
import ArchiveSearch.Proofs.Simplify.Literals
import ArchiveSearch.Proofs.Simplify.Marks
import ArchiveSearch.Proofs.Simplify.Tidy
import ArchiveSearch.Proofs.Simplify.Compiled
import ArchiveSearch.Proofs.Simplify.Seams
import ArchiveSearch.Proofs.Simplify.Joints
import ArchiveSearch.Proofs.Simplify.Absorbing
import ArchiveSearch.Proofs.Simplify.Operands
import ArchiveSearch.Proofs.Simplify.Edits
import ArchiveSearch.Proofs.Simplify.Variants
import ArchiveSearch.Proofs.Query.Refusals
import ArchiveSearch.Proofs.FullText.Words
import ArchiveSearch.Proofs.FullText.Expressions
import ArchiveSearch.Proofs.Calendar.TextOrder
import ArchiveSearch.Proofs.Filter.Windows
import ArchiveSearch.Proofs.Json.Contents
import ArchiveSearch.Proofs.Search.Endless
import ArchiveSearch.Proofs.Search.Invalidation
import ArchiveSearch.Proofs.Query.Indexes
import ArchiveSearch.Proofs.Cache.Origins
import ArchiveSearch.Proofs.Cache.Finishing
import ArchiveSearch.Proofs.Cache.Accounts
import ArchiveSearch.Proofs.Cache.Attempts
import ArchiveSearch.Proofs.Search.Failures
import ArchiveSearch.Proofs.Number.Order
import ArchiveSearch.Proofs.Suggest.Scores
import ArchiveSearch.Proofs.Suggest.Ranking
import ArchiveSearch.Proofs.Suggest.Newest
import ArchiveSearch.Proofs.Suggest.Counts
import ArchiveSearch.Proofs.Suggest.Tiers
import ArchiveSearch.Proofs.Suggest.Places
import ArchiveSearch.Proofs.Suggest.Promotion
import ArchiveSearch.Proofs.Suggest.Latest
import ArchiveSearch.Proofs.Query.Plans
import ArchiveSearch.Proofs.Query.Columns
import ArchiveSearch.Proofs.Text.Editing
import ArchiveSearch.Proofs.Suggest.Bounds
import ArchiveSearch.Proofs.Number.Signed
import ArchiveSearch.Proofs.Filter.Ranges
