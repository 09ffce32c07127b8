import GasMachine.Machine.Run
/-
Traces: a run that writes an account of itself as it goes.

A traced step writes one event between the payment for an instruction and the instruction itself, with the sizes it
finds there. A traced run counts the steps that do not fault; it writes the end with the count once the code is used up,
and no end if a step faults. `trace` is the whole account: the start, the events of the run, and the halt.
-/
namespace GasMachine

/-- one line of the account of a run -/
inductive TraceEvent where
  | started (codeLength : Nat) (gasLimit : UInt64)
  | executing (pc : Nat) (name : String) (gas : UInt64) (stackSize : Nat) (memorySize : UInt64)
  | ended (operations : Nat)
  | halted (gasUsed gasRefund memorySize : UInt64) (fault : Option Fault)
deriving DecidableEq, Repr

/-- the event of a paid instruction -/
def Paid.event (p : Paid) : TraceEvent :=
  .executing p.offset p.instruction.name p.gas p.state.stack.size p.state.memory.byteLength

/-- the event of a halt -/
def Outcome.event (out : Outcome) : TraceEvent :=
  .halted out.state.gasUsed out.state.gasRemaining out.state.memory.byteLength out.fault?

namespace State

/-- one step, and the events it writes -/
def stepTraced (s : State) (h : s.pc < s.code.size) : List TraceEvent × Outcome :=
  match s.prepare h with
  | .error (e, s') => ([], .fault e s')
  | .ok p => ([p.event], p.instruction.perform p.state)

/-- a traced step is a step -/
theorem stepTraced_snd (s : State) (h : s.pc < s.code.size) : (s.stepTraced h).2 = s.step h := by
  unfold stepTraced step
  cases s.prepare h with
  | error refused => rfl
  | ok p => rfl

/-- steps until the code is used up or one faults, and the events they write; `operations` of them came before -/
def executeTraced (s : State) (operations : UInt64) : List TraceEvent × Outcome :=
  if h : s.pc < s.code.size then
    match _hs : s.stepTraced h with
    | (events, .ok s') =>
      let (rest, out) := executeTraced s' (operations + 1)
      (events ++ rest, out)
    | (events, .fault e s') => (events, .fault e s')
  else ([.ended operations.toNat], .ok s)
termination_by s.code.size - s.pc
decreasing_by
  have hstep : s.step h = .ok s' := by rw [← s.stepTraced_snd h, _hs]
  have := step_advances hstep
  rw [this.1]
  omega

end State

/-- the account of a run and its outcome -/
def trace (code : Bytes) (gasLimit : UInt64) : List TraceEvent × Outcome :=
  let (events, out) := (State.start code gasLimit).executeTraced 0
  (.started code.size gasLimit :: events ++ [out.event], out)

end GasMachine
