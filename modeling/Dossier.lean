import Dossier.Cli.Args
import Dossier.Cli.Startup
import Dossier.Config.Check
import Dossier.Config.Types
import Dossier.Digest.Blake3
import Dossier.Digest.Fnv
import Dossier.Embedding.Client
import Dossier.Embedding.Hashing
import Dossier.Embedding.Reply
import Dossier.Entity
import Dossier.Event
import Dossier.Event.Bus
import Dossier.Event.Delivery
import Dossier.Evidence.Candidate
import Dossier.Evidence.Rules
import Dossier.Http.Body
import Dossier.Http.Header
import Dossier.Http.MediaType
import Dossier.Http.Target
import Dossier.Id
import Dossier.Json.Decode
import Dossier.Json.Parse
import Dossier.Json.Print
import Dossier.Json.Revise
import Dossier.Json.Shape
import Dossier.Json.Skip
import Dossier.Json.Value
import Dossier.Knowledge
import Dossier.Main
import Dossier.Net.SocketAddress
import Dossier.Number.Binary
import Dossier.Number.Decimal
import Dossier.Number.Log
import Dossier.Number.Power
import Dossier.Pii.Pattern
import Dossier.Pii.Redaction
import Dossier.Pii.Rule
import Dossier.Policy
import Dossier.Proofs.Store.Effects
import Dossier.Proofs.Store.Statement
import Dossier.Proofs.Work
import Dossier.Rehearsal.Alias
import Dossier.Rehearsal.Script
import Dossier.Rehearsal.Settings
import Dossier.Rehearsal.Workers
import Dossier.Request
import Dossier.Retrieval.Fusion
import Dossier.Retrieval.Grouping
import Dossier.Retrieval.Lexical
import Dossier.Service.Answer
import Dossier.Service.Change
import Dossier.Service.Defaults
import Dossier.Service.Embed
import Dossier.Service.Error
import Dossier.Service.Ingest
import Dossier.Service.Pack
import Dossier.Service.Project
import Dossier.Service.Route
import Dossier.Service.Search
import Dossier.Service.Subscribers
import Dossier.Service.World
import Dossier.Store.Chunks
import Dossier.Store.Location
import Dossier.Store.Records
import Dossier.Store.Row
import Dossier.Store.Schema
import Dossier.Store.Statement
import Dossier.Store.Trail
import Dossier.Store.Vectors
import Dossier.Text.Chunk
import Dossier.Text.Content
import Dossier.Text.Masking
import Dossier.Text.Words
import Dossier.Time
import Dossier.Toml.Document
import Dossier.Toml.Scalar
import Dossier.Toml.Tree
import Dossier.Unicode.Alphanumeric
import Dossier.Unicode.Blank
import Dossier.Unicode.CombiningClass
import Dossier.Unicode.Composition
import Dossier.Unicode.Decomposition
import Dossier.Unicode.Lowercase
import Dossier.Unicode.Normalization
import Dossier.Unicode.Printable
import Dossier.Unicode.Table
import Dossier.Unicode.Word
import Dossier.Vector.Index
import Dossier.Vector.Similarity
import Dossier.Vector.Text
import Dossier.Proofs.Store.Keyed
import Dossier.Proofs.Store.Sound
import Dossier.Proofs.Store.Change
import Dossier.Proofs.Service.Move
import Dossier.Proofs.Service.Reachable
import Dossier.Proofs.Service.Orderly
import Dossier.Proofs.Store.Succession
import Dossier.Proofs.Service.Site
import Dossier.Proofs.Service.Race
import Dossier.Proofs.Service.EmbeddingRace
import Dossier.Proofs.Retrieval.Legs
import Dossier.Proofs.Service.Search
import Dossier.Proofs.Evidence.Candidates
import Dossier.Proofs.Service.Projection
import Dossier.Proofs.Service.Pack
import Dossier.Proofs.Service.Isolation
import Dossier.Proofs.Number.Rounding
import Dossier.Proofs.Number.Shortest
import Dossier.Proofs.Number.Written
import Dossier.Proofs.Vector.Text
import Dossier.Proofs.Retrieval.Order
import Dossier.Proofs.Vector.Index
import Dossier.Proofs.Service.Watermark
import Dossier.Proofs.Service.Following
import Dossier.Proofs.Service.Interference
import Dossier.Proofs.Service.Atomicity
import Dossier.Proofs.Service.WriteIsolation
import Dossier.Proofs.Service.CatchingUp
import Dossier.Proofs.Service.Covering
import Dossier.Proofs.Service.Blind
import Dossier.Proofs.Service.Rebuilding
import Dossier.Proofs.Number.Monotone
import Dossier.Proofs.Retrieval.Scores
import Dossier.Proofs.Evidence.Selection
import Dossier.Proofs.Vector.Similarity
import Dossier.Proofs.Config.Valid
import Dossier.Proofs.Store.Lookup
import Dossier.Proofs.Service.Evidence
import Dossier.Proofs.Evidence.Redaction
import Dossier.Proofs.Service.TermOrder
import Dossier.Proofs.Service.Narrowing
import Dossier.Proofs.Pii.Rules
import Dossier.Proofs.Pii.Pieces
import Dossier.Proofs.Pii.Near
import Dossier.Proofs.Pii.Parts
import Dossier.Proofs.Pii.Tokens
import Dossier.Proofs.Pii.Redaction
import Dossier.Proofs.Pii.Cover
import Dossier.Proofs.Pii.Snippet
import Dossier.Proofs.Service.Snippets
import Dossier.Proofs.Event.Reading
import Dossier.Proofs.Event.Delivery
import Dossier.Proofs.Retrieval.LexicalOnly
import Dossier.Proofs.Service.Packing
import Dossier.Proofs.Service.Degraded
import Dossier.Proofs.Service.Trail
import Dossier.Proofs.Json.Reread
import Dossier.Proofs.Store.Restaging
import Dossier.Proofs.Service.Origins
import Dossier.Proofs.Service.Refreshing
import Dossier.Proofs.Service.Repeating
import Dossier.Proofs.Number.Exact
import Dossier.Proofs.Retrieval.Fusion
import Dossier.Proofs.Retrieval.Calibration
import Dossier.Proofs.Service.Confidence
import Dossier.Proofs.Service.Paging
import Dossier.Proofs.Text.Words
import Dossier.Proofs.Text.Chunks
import Dossier.Proofs.Service.Reindexing
import Dossier.Proofs.Store.Batches
import Dossier.Proofs.Service.Batches
import Dossier.Proofs.Store.Backlog
import Dossier.Proofs.Service.Backlog
import Dossier.Proofs.Retrieval.Postings
import Dossier.Proofs.Retrieval.Answers
import Dossier.Proofs.Retrieval.Surviving
import Dossier.Proofs.Retrieval.Summation
import Dossier.Proofs.Embedding.Reply
import Dossier.Proofs.Text.Masking
import Dossier.Proofs.Pii.Numbering
import Dossier.Proofs.Pii.Groups
import Dossier.Proofs.Pii.Passing
import Dossier.Proofs.Pii.Telephone.Form
import Dossier.Proofs.Pii.Telephone.Matches
import Dossier.Proofs.Pii.Telephone.Redaction
import Dossier.Proofs.Number.Value
import Dossier.Proofs.Number.Root
import Dossier.Proofs.Vector.Bounds
import Dossier.Proofs.Evidence.Similar
import Dossier.Proofs.Config.Limits
import Dossier.Proofs.Service.Listing
import Dossier.Proofs.Service.Accounts
import Dossier.Proofs.Service.ReadingBack
import Dossier.Proofs.Id
import Dossier.Proofs.Json.Canonical
import Dossier.Proofs.Event.Rereading
import Dossier.Proofs.Service.Publishing
import Dossier.Proofs.Retrieval.Grouped
import Dossier.Proofs.Evidence.Causes
import Dossier.Proofs.Text.Content
