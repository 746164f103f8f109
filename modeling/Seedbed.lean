import Seedbed.Unicode.Alphanumeric
import Seedbed.Unicode.Unmarked
import Seedbed.Unicode.Normal
import Seedbed.Unicode.Direction
import Seedbed.Unicode.Joining
import Seedbed.Text.Blank
import Seedbed.Text.Split
import Seedbed.Text.Quoted
import Seedbed.Text.Hex
import Seedbed.Number.Integer
import Seedbed.Number.Binary
import Seedbed.Number.Shortest
import Seedbed.Number.Real
import Seedbed.Fields
import Seedbed.Json.Basic
import Seedbed.Json.Printer
import Seedbed.Json.Numeral
import Seedbed.Json.Reader
import Seedbed.TableOrder
import Seedbed.Redaction
import Seedbed.Statement
import Seedbed.Calendar.Date
import Seedbed.Calendar.Text
import Seedbed.Random.Source
import Seedbed.Rule.Template
import Seedbed.Rule.Parser
import Seedbed.Definition.Compiler
import Seedbed.Validation.Check
import Seedbed.Work
import Seedbed.Generator.BuiltIn
import Seedbed.Generation.Table
import Seedbed.Seeding.Run
import Seedbed.Files.Disk
import Seedbed.Definition.CountText
import Seedbed.Settings
import Seedbed.Pattern.Basic
import Seedbed.Log.Rule
import Seedbed.Log.Line
import Seedbed.Text.Utf8
import Seedbed.Domain.Punycode
import Seedbed.Domain.Basic
import Seedbed.Url.Basic
import Seedbed.Connection
import Seedbed.Command.Run
import Seedbed.Main
import Seedbed.Proofs.Fields
import Seedbed.Proofs.Accepting
import Seedbed.Proofs.Ending
import Seedbed.Proofs.Random.Bounds
import Seedbed.Proofs.Json.Distinct
import Seedbed.Proofs.Definition.Traversal
import Seedbed.Proofs.Definition.Decoding
import Seedbed.Proofs.Definition.Agreement
import Seedbed.Proofs.Rule.Fit
import Seedbed.Proofs.Generation.Yield
import Seedbed.Proofs.Generation.Scalar
import Seedbed.Proofs.Generation.Table
import Seedbed.Proofs.Generation.LateKey
import Seedbed.Proofs.Generation.Conformance
import Seedbed.Proofs.Following
import Seedbed.Proofs.InStep
import Seedbed.Proofs.Seeding.History
import Seedbed.Proofs.Store.Memory
import Seedbed.Proofs.Store.Log
import Seedbed.Proofs.Store.Commuting
import Seedbed.Proofs.TableOrder
import Seedbed.Proofs.Seeding.Definitions
import Seedbed.Proofs.Seeding.References
import Seedbed.Proofs.Seeding.Integrity
import Seedbed.Proofs.Seeding.Truncation
import Seedbed.Proofs.Calendar.Civil
import Seedbed.Proofs.Calendar.Text
import Seedbed.Proofs.Generation.DateOffset
import Seedbed.Proofs.Generation.Alike
import Seedbed.Proofs.Generator.Days
import Seedbed.Proofs.Generation.InStep
import Seedbed.Proofs.Seeding.Preview
import Seedbed.Proofs.Seeding.ParentsFirst
import Seedbed.Proofs.Seeding.Resetting
import Seedbed.Proofs.Seeding.Commuting
import Seedbed.Proofs.Seeding.Reseeding
import Seedbed.Proofs.Text.Split
import Seedbed.Proofs.Redaction
import Seedbed.Proofs.Redaction.Layout
import Seedbed.Proofs.Rule.Template
import Seedbed.Proofs.Number.Reading
import Seedbed.Proofs.Rule.Written
import Seedbed.Proofs.Number.Order
import Seedbed.Proofs.Rule.WellFormed
import Seedbed.Proofs.Rule.Reserved
import Seedbed.Proofs.Converting
import Seedbed.Proofs.Generation.Checked
import Seedbed.Proofs.Generation.Safety
import Seedbed.Proofs.Generator.Beyond
import Seedbed.Proofs.Number.Numeral
import Seedbed.Proofs.Generator.Argument
import Seedbed.Proofs.Generation.Lookup
import Seedbed.Proofs.Definition.Scalars
import Seedbed.Proofs.Definition.RuleErrors
import Seedbed.Proofs.Definition.Rendering
import Seedbed.Proofs.Generation.Blame
import Seedbed.Proofs.Seeding.FixedCount
import Seedbed.Proofs.Store.Tenants
import Seedbed.Proofs.Seeding.Erasing
import Seedbed.Proofs.Generation.Interpolation
import Seedbed.Proofs.Statement.Names
import Seedbed.Proofs.Statement.Columns
import Seedbed.Proofs.Random.Sampling
import Seedbed.Proofs.Random.TenantSeed
import Seedbed.Proofs.Rule.Nesting
import Seedbed.Proofs.Generation.Nesting
import Seedbed.Proofs.Definition.Calls
