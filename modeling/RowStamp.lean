import RowStamp.Binding.InPlace
import RowStamp.Config.Json
import RowStamp.Host.InPlace
import RowStamp.Json.Reader
import RowStamp.Main
import RowStamp.Session
import RowStamp.Stamp.InPlace
import RowStamp.Proofs.Sql.Placeholders
import RowStamp.Proofs.Stamp.Marks
import RowStamp.Proofs.Stamp.Grid
import RowStamp.Proofs.Stamp.Insert
import RowStamp.Proofs.Stamp.Statement
import RowStamp.Proofs.Sql.Equality
import RowStamp.Proofs.Binding.Alignment
import RowStamp.Proofs.Session.Phases
import RowStamp.Proofs.Session.Convergence
import RowStamp.Proofs.Sql.Quoting
import RowStamp.Proofs.Sql.Reading
import RowStamp.Proofs.Sql.Constants
import RowStamp.Proofs.Sql.Operations
import RowStamp.Proofs.Sql.Spelling
import RowStamp.Proofs.Sql.Simple
import RowStamp.Proofs.Sql.Written
import RowStamp.Proofs.Sql.SimpleInsert
import RowStamp.Proofs.Sql.Recovery
import RowStamp.Proofs.Sql.InsertRecovery
import RowStamp.Proofs.Sql.Comparisons
import RowStamp.Proofs.Sql.SimpleUpdate
import RowStamp.Proofs.Sql.UpdateRecovery
import RowStamp.Proofs.Sql.SimpleStatement
import RowStamp.Proofs.Stamp.Simple
import RowStamp.Proofs.ReadBack
import RowStamp.Proofs.Stamp.Decision
import RowStamp.Proofs.Stamp.Exemption
import RowStamp.Proofs.Host.Continuation
import RowStamp.Proofs.Regex.Matching
import RowStamp.Proofs.Regex.Moved
import RowStamp.Proofs.Regex.Running
import RowStamp.Proofs.Regex.Consuming
import RowStamp.Proofs.Regex.ConsumingParts
import RowStamp.Proofs.Regex.ConsumingPattern
import RowStamp.Proofs.Regex.Advancing
import RowStamp.Proofs.Regex.Enclosed
import RowStamp.Proofs.Regex.EnclosedEscapes
import RowStamp.Proofs.Regex.EnclosedParts
import RowStamp.Proofs.Regex.EnclosedPattern
import RowStamp.Proofs.Regex.Outcomes
import RowStamp.Proofs.Regex.Anchored
import RowStamp.Proofs.Ignore.WholeName
import RowStamp.Proofs.Stamp.Failures
import RowStamp.Proofs.Stamp.Placement
import RowStamp.Proofs.Stamp.Slots
import RowStamp.Proofs.Session.Invariant
import RowStamp.Proofs.Host.Frame
import RowStamp.Proofs.Json.Members
import RowStamp.Proofs.Json.Strings
import RowStamp.Proofs.Json.Documents
import RowStamp.Proofs.Cli.Report
import RowStamp.Proofs.Cli.Outcome
import RowStamp.Proofs.Stamp.Assigned
import RowStamp.Proofs.Stamp.InPlace
import RowStamp.Proofs.Stamp.Agreement
import RowStamp.Proofs.Stamp.Absorption
import RowStamp.Proofs.Binding.Accounting
import RowStamp.Proofs.Binding.InPlace
import RowStamp.Proofs.Stamp.Survivors
import RowStamp.Proofs.Sql.SetLists
import RowStamp.Proofs.Stamp.Tuples
import RowStamp.Proofs.Sql.Names
import RowStamp.Proofs.Stamp.Injected
import RowStamp.Proofs.Text.Trimming
import RowStamp.Proofs.Ignore.Ordered
import RowStamp.Proofs.Config.Routes
import RowStamp.Proofs.Config.Restated
import RowStamp.Proofs.Calendar.Days
import RowStamp.Proofs.Calendar.Digits
import RowStamp.Proofs.Calendar.Moments
import RowStamp.Proofs.Calendar.Written
import RowStamp.Proofs.Naming.Segments
import RowStamp.Proofs.Cli.Bindings
import RowStamp.Proofs.Calendar.Numbered
import RowStamp.Proofs.Calendar.Reading
import RowStamp.Proofs.Json.Decoding
import RowStamp.Proofs.Host.Json
import RowStamp.Proofs.Host.Parts
import RowStamp.Proofs.Host.GetSet
