import GasMachine.Checked
import GasMachine.Command.Arguments
import GasMachine.Command.Environment
import GasMachine.Command.Program
import GasMachine.Command.Request
import GasMachine.Fault
import GasMachine.Files.Node
import GasMachine.Files.Path
import GasMachine.Files.Tree
import GasMachine.Fork
import GasMachine.Keccak
import GasMachine.Log.Directive
import GasMachine.Log.Event
import GasMachine.Log.Options
import GasMachine.Log.Sink
import GasMachine.Log.Stamp
import GasMachine.Machine.Gas
import GasMachine.Machine.Instruction
import GasMachine.Machine.Memory
import GasMachine.Machine.Run
import GasMachine.Machine.Stack
import GasMachine.Machine.State
import GasMachine.Machine.Trace
import GasMachine.Main
import GasMachine.Pattern.Check
import GasMachine.Pattern.Expr
import GasMachine.Pattern.Reader
import GasMachine.Proofs.Account
import GasMachine.Proofs.BareInstructions
import GasMachine.Proofs.Bill
import GasMachine.Proofs.Charge
import GasMachine.Proofs.CodeAhead
import GasMachine.Proofs.Concatenation
import GasMachine.Proofs.Counts
import GasMachine.Proofs.DecimalText
import GasMachine.Proofs.Depth
import GasMachine.Proofs.Effects
import GasMachine.Proofs.Exactness
import GasMachine.Proofs.FailedStep
import GasMachine.Proofs.FaithfulTrace
import GasMachine.Proofs.Fetches
import GasMachine.Proofs.FilePlaces
import GasMachine.Proofs.FlagOrSetting
import GasMachine.Proofs.GasLimit
import GasMachine.Proofs.HexPairs
import GasMachine.Proofs.HexSlices
import GasMachine.Proofs.HexText
import GasMachine.Proofs.IndependentStores
import GasMachine.Proofs.Listing
import GasMachine.Proofs.MemoryGrowth
import GasMachine.Proofs.Overlay
import GasMachine.Proofs.Place
import GasMachine.Proofs.PlainText
import GasMachine.Proofs.Power
import GasMachine.Proofs.QuotedText
import GasMachine.Proofs.Reference
import GasMachine.Proofs.Refinement
import GasMachine.Proofs.ReportText
import GasMachine.Proofs.Runs
import GasMachine.Proofs.SavedSettings
import GasMachine.Proofs.SettingsCommand
import GasMachine.Proofs.SettingsFile
import GasMachine.Proofs.SettingsText
import GasMachine.Proofs.SignedQuotient
import GasMachine.Proofs.SignificantBytes
import GasMachine.Proofs.StackFrame
import GasMachine.Proofs.StoreBilling
import GasMachine.Proofs.StoredFile
import GasMachine.Proofs.TrimmedText
import GasMachine.Proofs.Watermark
import GasMachine.Proofs.WellFormedRequest
import GasMachine.Proofs.WordRoundTrip
import GasMachine.Proofs.Words
import GasMachine.Report
import GasMachine.Settings
import GasMachine.Text.Alphabetic
import GasMachine.Text.Alphanumeric
import GasMachine.Text.Blank
import GasMachine.Text.Combining
import GasMachine.Text.Decimal
import GasMachine.Text.Hex
import GasMachine.Text.Number
import GasMachine.Text.Numeric
import GasMachine.Text.Printable
import GasMachine.Text.Quoted
import GasMachine.Text.Ranges
import GasMachine.Text.Split
import GasMachine.Text.Style
import GasMachine.Toml.Document
import GasMachine.Toml.Item
import GasMachine.Toml.Quotes
import GasMachine.Toml.Scalar
import GasMachine.Toml.Writer
import GasMachine.Word
