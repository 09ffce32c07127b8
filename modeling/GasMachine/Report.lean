import GasMachine.Keccak
import GasMachine.Machine.Run
import GasMachine.Text.Hex
import GasMachine.Text.Split
import GasMachine.Text.Style
/-
Reports: what is told of a run.

A report is framed by two rules. Between them stand the digest of the memory, the gas used and the gas left over, or the
fault alone if the run did not succeed. On screen the text is taken apart into lines again, and each is shown by how it
begins: the rules are dim and the line of the fault is red.
-/
namespace GasMachine

/-- what is told of a run -/
structure Report where
  memoryHash : Bytes
  gasUsed : UInt64
  gasRefund : UInt64
  fault : Option Fault
deriving DecidableEq, Repr

namespace Report

/-- the report of a state, and of the fault that ended the run in it -/
def ofState (s : State) (fault : Option Fault) : Report :=
  { memoryHash := Keccak.digest s.memory.bytes, gasUsed := s.gasUsed, gasRefund := s.gasRemaining, fault }

/-- the report of an outcome -/
def ofOutcome (out : Outcome) : Report := ofState out.state out.fault?

/-- whether the run succeeded -/
def isSuccess (r : Report) : Bool := r.fault.isNone

/-- the line above and below a report -/
def rule : String := "--------------------------------------------------"

/-- a label filled up with blanks to 22 characters, and its value -/
def labelled (label value : String) : String :=
  label ++ String.ofList (List.replicate (22 - label.length) ' ') ++ value

/-- the lines of a report -/
def lines (r : Report) : List String :=
  match r.fault with
  | none =>
    [rule, labelled "Memory Keccak256:" (Text.Hex.toText r.memoryHash),
     labelled "Total Gas Consumed:" (decimal r.gasUsed.toNat), labelled "Gas Refund:" (decimal r.gasRefund.toNat), rule]
  | some f => [rule, "evm error: " ++ f.message, rule]

/-- the text of a report, without a final line end -/
def text (r : Report) : String := "\n".intercalate r.lines

/-- a line as it is shown on screen, by how it begins -/
def highlight (colours : Bool) (line : String) : String :=
  if line.startsWith "evm error:" then Text.Style.alarm.paint colours line
  else if line.startsWith "-" then Text.Style.dim.paint colours line
  else line

/-- a report as it is shown on screen -/
def render (colours : Bool) (r : Report) : String :=
  "\n".intercalate ((Text.lines r.text.toList).map fun line => highlight colours (String.ofList line))

end Report

/-- the report of the run of `code` with `gasLimit` gas -/
def report (code : Bytes) (gasLimit : UInt64) : Report := .ofOutcome (run code gasLimit)

/-- an error that kept a command from running, as it is shown on screen -/
def renderError (colours : Bool) (message : String) : String :=
  Text.Style.alarm.paint colours "error:" ++ " " ++ message

end GasMachine
