import GasMachine.Report
import GasMachine.Settings
/-
Requests to run code: texts as they were given, and the job they ask for.

A request names the code, and may name a gas limit and a fork; the settings stand in for what it leaves out. Nothing runs
unless all of it is well formed. Of several faults the first in this order is reported: no code, bad code, bad gas
limit, unknown fork.
-/
namespace GasMachine

/-- a request to run code, in the texts it was given in -/
structure Request where
  bytecode : Option String
  gas : Option String
  fork : Option String
deriving DecidableEq, Repr

/-- why a request is refused -/
inductive RequestError where
  | missingBytecode
  | invalidBytecode (cause : Text.Hex.Refusal)
  | invalidGas
  | unknownFork (cause : UnknownFork)
  | badSettings (cause : SettingsError)
deriving DecidableEq, Repr

/-- the sentence that reports a refused request -/
def RequestError.message : RequestError → String
  | missingBytecode => "missing flag --bytecode"
  | invalidBytecode cause => "invalid bytecode: " ++ cause.message
  | invalidGas => "gas should be a valid decimal"
  | unknownFork cause => cause.message
  | badSettings cause => "Config error: " ++ cause.message

/-- what a request asks for -/
structure Job where
  code : Bytes
  gasLimit : UInt64
  fork : Fork
deriving DecidableEq, Repr

namespace Request

/-- the code that is asked for -/
def codeOf (r : Request) : Except RequestError Bytes :=
  match r.bytecode with
  | none => .error .missingBytecode
  | some text =>
    match Text.Hex.decode text with
    | .ok bs => .ok bs.toArray
    | .error cause => .error (.invalidBytecode cause)

/-- the gas limit that is asked for, or that of the settings -/
def gasOf (r : Request) (s : Settings) : Except RequestError UInt64 :=
  match r.gas with
  | none => .ok s.gasLimit
  | some text =>
    match Text.Decimal.read? text with
    | some gas => .ok gas
    | none => .error .invalidGas

/-- the fork that is asked for, or that of the settings -/
def forkOf (r : Request) (s : Settings) : Except RequestError Fork :=
  match r.fork with
  | some text =>
    match Fork.ofName text with
    | .ok f => .ok f
    | .error cause => .error (.unknownFork cause)
  | none =>
    match s.forkOf with
    | .ok f => .ok f
    | .error cause => .error (.badSettings cause)

/-- the job that a request asks for -/
def job (r : Request) (s : Settings) : Except RequestError Job :=
  match r.codeOf with
  | .error e => .error e
  | .ok code =>
    match r.gasOf s with
    | .error e => .error e
    | .ok gasLimit =>
      match r.forkOf s with
      | .error e => .error e
      | .ok fork => .ok { code, gasLimit, fork }

/-- the report of the run that a request asks for -/
def perform (r : Request) (s : Settings) : Except RequestError Report :=
  match r.job s with
  | .error e => .error e
  | .ok j => .ok (report j.code j.gasLimit)

end Request

end GasMachine
