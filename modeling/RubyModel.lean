import RubyModel.Command.Options
import RubyModel.Command.Report
import RubyModel.Decimal.Shortest
import RubyModel.Decimal.Text
import RubyModel.Diagnostic
import RubyModel.Json.Numeral
import RubyModel.Json.Reader
import RubyModel.Json.Value
import RubyModel.Json.Writer
import RubyModel.Loading
import RubyModel.Lowering.Failure
import RubyModel.Lowering.Outcome
import RubyModel.Lowering.Split
import RubyModel.Lowering.Value
import RubyModel.Main
import RubyModel.Model.Entry
import RubyModel.Model.Form
import RubyModel.Model.Kind
import RubyModel.Model.Written
import RubyModel.Policy
import RubyModel.Position
import RubyModel.Program
import RubyModel.Raw.Build
import RubyModel.Raw.Entry
import RubyModel.Raw.Kind
import RubyModel.Raw.Shape
import RubyModel.Raw.Written
import RubyModel.Record.Fault
import RubyModel.Record.Slots
import RubyModel.Session
import RubyModel.Text.Combining
import RubyModel.Text.Quoted
import RubyModel.Text.Unprintable
import RubyModel.Vocabulary
import RubyModel.Proofs.Tree
import RubyModel.Proofs.Positions
import RubyModel.Proofs.Visits
import RubyModel.Proofs.Layers
import RubyModel.Proofs.LockStep
import RubyModel.Proofs.Simulation
import RubyModel.Proofs.Policies
import RubyModel.Proofs.Concatenation
import RubyModel.Proofs.WrittenArguments
import RubyModel.Proofs.Terminals
import RubyModel.Proofs.Origins
import RubyModel.Proofs.TerminalsKept
import RubyModel.Proofs.Absence
import RubyModel.Proofs.Reports
import RubyModel.Proofs.Finite
import RubyModel.Proofs.Records
import RubyModel.Proofs.RoundTrip
import RubyModel.Proofs.Grammar
import RubyModel.Proofs.Unlisted
import RubyModel.Proofs.Families
import RubyModel.Proofs.Growth
import RubyModel.Proofs.WellFormed
import RubyModel.Proofs.Flattening
import RubyModel.Proofs.ParserVersions
import RubyModel.Proofs.Essence
import RubyModel.Proofs.Wrappers
import RubyModel.Proofs.Reuse
import RubyModel.Proofs.Spelling
import RubyModel.Proofs.Nesting
import RubyModel.Proofs.TextRoundTrip
import RubyModel.Proofs.ModelRoundTrip
import RubyModel.Proofs.Heights
import RubyModel.Proofs.ReadBack
import RubyModel.Proofs.Edits
import RubyModel.Proofs.ElementAssignments
import RubyModel.Proofs.Splats
import RubyModel.Proofs.Layouts
import RubyModel.Proofs.ProtectedBodies
import RubyModel.Proofs.CommandRuns
import RubyModel.Proofs.HashPairs
import RubyModel.Proofs.LogicalAssignments
