import Likeness.Instances
import Likeness.Tree
import Likeness.Tree.Walk
import Likeness.Tree.Index
import Likeness.EditDistance.Cost
import Likeness.EditDistance.Grid
import Likeness.EditDistance.Table
import Likeness.Binary64
import Likeness.Binary64.Decimal
import Likeness.Binary64.Text
import Likeness.Text.Visible
import Likeness.Text.Quoted
import Likeness.Json.Fault
import Likeness.Json.Reader
import Likeness.Json.Number
import Likeness.Json.Skip
import Likeness.Json.Shape
import Likeness.Json.Record
import Likeness.Json.Value
import Likeness.Tree.Document
import Likeness.Similarity
import Likeness.Text.Blank
import Likeness.Equivalence
import Likeness.Metrics
import Likeness.Matrix
import Likeness.Batch.Pairing
import Likeness.Batch.Ledger
import Likeness.Batch.Pool
import Likeness.Calendar
import Likeness.Batch.Basic
import Likeness.Digest.Blake3
import Likeness.Digest.Run
import Likeness.Batch.Document
import Likeness.Report.Csv
import Likeness.Report.Text
import Likeness.Text.Utf8
import Likeness.Text.Hexadecimal
import Likeness.Files.Fault
import Likeness.Files.Path
import Likeness.Files.Host
import Likeness.Files.Disk
import Likeness.Files.Session
import Likeness.Files.Resolve
import Likeness.Submission.Listing
import Likeness.Submission.Loading
import Likeness.Submission.Comparing
import Likeness.Text.Encoding
import Likeness.Store.Cell
import Likeness.Store.Cell.Arithmetic
import Likeness.Store.Expression.Basic
import Likeness.Store.Expression.Pattern
import Likeness.Store.Expression.Function
import Likeness.Store.Expression.Value
import Likeness.Store.Expression.Lookup
import Likeness.Store.Definition
import Likeness.Store.Table
import Likeness.Store.Question
import Likeness.Store.Fault
import Likeness.Store.Answer
import Likeness.Store.Basic
import Likeness.Store.Database
import Likeness.Store.Beside.Journal
import Likeness.Store.Beside.Log
import Likeness.Store.Location
import Likeness.Store.Statement.Token
import Likeness.Store.Statement.Reader
import Likeness.Store.Statement.Phrase
import Likeness.Store.Statement.Outline
import Likeness.Store.Statement.TableStatement
import Likeness.Store.Statement.IndexStatement
import Likeness.Store.Catalog
import Likeness.Store.Image.Number
import Likeness.Store.Image.Page
import Likeness.Store.Image.Entry
import Likeness.Store.Image.Packed
import Likeness.Store.Image.Walk
import Likeness.Store.Image.Seek
import Likeness.Store.Image.Sheet
import Likeness.Store.Image.Draft
import Likeness.Store.Image.Sharing
import Likeness.Store.Image.Arrange
import Likeness.Store.Image.Balance
import Likeness.Store.Image.Insert
import Likeness.Store.Head
import Likeness.Store.Archive
import Likeness.Store.Archive.View
import Likeness.Store.Archive.Filing
import Likeness.Store.Access
import Likeness.Command.Value
import Likeness.Command.Form
import Likeness.Command.Basic
import Likeness.Tree.Ternary
import Likeness.Report.Metrics
import Likeness.Command.Benchmark
import Likeness.Command.Run
import Likeness.Main
import Likeness.Proofs.Answer
import Likeness.Proofs.EditDistance.Grove
import Likeness.Proofs.EditDistance.Recurrence
import Likeness.Proofs.EditDistance.Detour
import Likeness.Proofs.EditDistance.Landing
import Likeness.Proofs.EditDistance.Triangle
import Likeness.Proofs.EditDistance.Outline
import Likeness.Proofs.EditDistance.Listing
import Likeness.Proofs.EditDistance.Filling
import Likeness.Proofs.EditDistance.Metric
import Likeness.Proofs.EditDistance.LeastCost
import Likeness.Proofs.EditDistance.Mapping
import Likeness.Proofs.EditDistance.Surplus
import Likeness.Proofs.EditDistance.Understatement
import Likeness.Proofs.EditDistance.Sequence
import Likeness.Proofs.EditDistance.Positions
import Likeness.Proofs.EditDistance.Growth
import Likeness.Proofs.Matrix
import Likeness.Proofs.Batch.Pairing
import Likeness.Proofs.Batch.Ledger
import Likeness.Proofs.Batch.Interleaving
import Likeness.Proofs.Batch.Accounts
import Likeness.Proofs.Batch.FinishedRun
import Likeness.Proofs.Batch.Driving
import Likeness.Proofs.Batch.Outcome
import Likeness.Proofs.Batch.Independence
import Likeness.Proofs.Equivalence.Rules
import Likeness.Proofs.Equivalence.Operators
import Likeness.Proofs.Equivalence.Congruence
import Likeness.Proofs.Equivalence.Symmetry
import Likeness.Proofs.Equivalence.Distance
import Likeness.Proofs.Equivalence.Variant
import Likeness.Proofs.Text.ByteOrder
import Likeness.Proofs.Tree.Walk
import Likeness.Proofs.Equivalence.Transitivity
import Likeness.Proofs.Json.Text
import Likeness.Proofs.Json.Number
import Likeness.Proofs.Json.Record
import Likeness.Proofs.Tree.Document
import Likeness.Proofs.Batch.Records
import Likeness.Proofs.Submission.Loading
import Likeness.Proofs.Submission.Comparing
import Likeness.Proofs.Similarity
import Likeness.Proofs.Score
import Likeness.Proofs.Binary64.Text
import Likeness.Proofs.Report.Csv
import Likeness.Proofs.Store.Order
import Likeness.Proofs.Store.Insertion
import Likeness.Proofs.Store.Transactional
import Likeness.Proofs.Store.Access
import Likeness.Proofs.Store.Hosting
import Likeness.Proofs.Store.Frame
import Likeness.Proofs.Store.History
import Likeness.Proofs.Store.Memory
import Likeness.Proofs.Store.Saving
import Likeness.Proofs.Batch.Orderly
import Likeness.Proofs.Digest.Message
import Likeness.Proofs.Store.Reading
import Likeness.Proofs.Store.ReadBack
import Likeness.Proofs.Equivalence.Names
import Likeness.Proofs.Json.Continuation
import Likeness.Proofs.Json.RecordContinuation
import Likeness.Proofs.Tree.Continuation
import Likeness.Proofs.Binary64.Order
import Likeness.Proofs.Batch.Best
import Likeness.Proofs.Text.Numeral
import Likeness.Proofs.Store.Listing
import Likeness.Proofs.Batch.Notices
import Likeness.Proofs.Calendar
import Likeness.Proofs.Metrics
import Likeness.Proofs.Tree.Ternary
import Likeness.Proofs.Tree.Index
import Likeness.Proofs.Matrix.Writing
import Likeness.Proofs.Report.Ranking
