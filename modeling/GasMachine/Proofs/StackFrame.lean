import Mathlib.Tactic
import GasMachine.Proofs.FailedStep
import GasMachine.Proofs.Fetches
/-
What lies deeper on the stack plays no part.

`above below` puts a state on top of the words `below`. Charges read the two top words at most, and instructions take
them off and put words on top, so that what is deeper can make a difference in two ways only: where the words on top do
not suffice, and where a push finds the stack full. The first is a stack underflow of the state without `below`
(`dynamicGas_above`, `perform_above`); the second is ruled out where both together stay within the limit, the state
after the push included. So a run that has neither goes the same way on top of `below` (`Reaches.above`), to the same
end (`Ends.above`).
-/
namespace GasMachine

/-- the state on top of the words `below` -/
def State.above (below : List Word) (s : State) : State := { s with stack := ⟨s.stack.words ++ below⟩ }

/-- the outcome on top of the words `below` -/
def Outcome.above (below : List Word) : Outcome → Outcome
  | .ok s => .ok (s.above below)
  | .fault e s => .fault e (s.above below)

/-- the paid instruction on top of the words `below` -/
def Paid.above (below : List Word) (p : Paid) : Paid := { p with state := p.state.above below }

variable {below : List Word}

theorem Outcome.fault?_above (out : Outcome) : (out.above below).fault? = out.fault? := by
  cases out with
  | ok s => rfl
  | fault e s => rfl

theorem Outcome.state_above (out : Outcome) : (out.above below).state = out.state.above below := by
  cases out with
  | ok s => rfl
  | fault e s => rfl

/-! ## Instructions -/

namespace Instruction

/-- a charge that does not lack a word is the same on top of others -/
theorem dynamicGas_above {i : Instruction} {s : State} (h : i.dynamicGas s ≠ .error .stackUnderflow) :
    i.dynamicGas (s.above below) = i.dynamicGas s := by
  rcases dynamicGas_kind i with ⟨-, hi⟩ | ⟨-, -, hi⟩ | ⟨-, -, hi⟩
  · rw [hi] at h ⊢
    rcases Gas.exponent_cases s with ⟨-, he⟩ | ⟨a, e, rest, gas, hw, -, -⟩
    · exact absurd he h
    · simp [Gas.exponent, Stack.peek, State.above, hw]
  · rw [hi] at h ⊢
    rcases Gas.memoryExpansion_outcome s with ⟨-, he⟩ | ⟨offset, rest, hw, -⟩
    · exact absurd he h
    · simp [Gas.memoryExpansion, Gas.writeSize, Stack.peek, State.above, hw]
  · rw [hi, hi]

/-- a push does the same on top of words for which the stack it leaves has room -/
theorem push_above {s : State} (hroom : (push s).state.stack.size + below.length ≤ Stack.limit) :
    push (s.above below) = (push s).above below := by
  have hread (n : ℕ) : (s.above below).nextBytes n = s.nextBytes n := rfl
  have hwidth : width (s.above below) = width s := rfl
  unfold push at hroom ⊢
  rw [hwidth, hread]
  generalize width s = n at hroom ⊢
  cases hbytes : s.nextBytes n with
  | error e => rfl
  | ok bs =>
    dsimp only
    cases hword : Word.ofBytes bs with
    | error e => rfl
    | ok w =>
      simp only [hbytes, hword] at hroom
      by_cases hlt : s.stack.size < Stack.limit
      · have hpush : s.stack.push w = .ok ⟨w :: s.stack.words⟩ := if_pos hlt
        rw [hpush] at hroom
        have hlt' : (s.above below).stack.size < Stack.limit := by
          simp only [Outcome.state, Stack.size, State.above, List.length_cons, List.length_append] at hroom ⊢
          omega
        have hpush' : (s.above below).stack.push w = .ok ⟨w :: (s.above below).stack.words⟩ := if_pos hlt'
        simp only [hpush, hpush']
        rfl
      · -- a full stack has room for no word below it
        have hpush : s.stack.push w = .error .stackOverflow := if_neg hlt
        rw [hpush] at hroom
        have hnil : below = [] := by
          simp only [Outcome.state] at hroom
          exact List.length_eq_zero_iff.1 (by omega)
        have hsame : s.above below = s := by simp [State.above, hnil]
        simp only [hpush, Outcome.above, hsame]

/-- an instruction that does not lack a word does the same on top of words for which the stack it leaves has room -/
theorem perform_above {i : Instruction} {s : State} (hne : (i.perform s).fault? ≠ some .stackUnderflow)
    (hroom : (i.perform s).state.stack.size + below.length ≤ Stack.limit) :
    i.perform (s.above below) = (i.perform s).above below := by
  rcases perform_kind i with ⟨-, op, hi⟩ | ⟨-, bytes, hi, -⟩ | ⟨-, hi, -⟩
  · rw [hi] at hne ⊢
    rcases binary_cases op s with ⟨-, he⟩ | ⟨a, b, rest, hw, he⟩
    · exact absurd (congrArg Outcome.fault? he) hne
    · rw [he]
      simp [binary_eq, State.above, Outcome.above, hw]
  · rw [hi] at hne ⊢
    rcases hw : s.stack.words with _ | ⟨offset, _ | ⟨value, rest⟩⟩
    · exact absurd (by simp [store_eq, hw, Outcome.fault?]) hne
    · exact absurd (by simp [store_eq, hw, Outcome.fault?]) hne
    · simp only [store_eq, State.above, hw, List.cons_append]
      cases offset.toCount? with
      | none => rfl
      | some o =>
        dsimp only
        cases s.memory.write o (bytes value) with
        | error e => rfl
        | ok m => rfl
  · rw [hi] at hroom ⊢
    exact push_above hroom

end Instruction

/-! ## Steps and runs -/

namespace State

theorem prepare_above {s : State} {h : s.pc < s.code.size} {p : Paid} (hp : s.prepare h = .ok p) :
    (s.above below).prepare h = .ok (p.above below) := by
  obtain ⟨i, d, hi, hd, hg, rfl⟩ := prepare_ok hp
  have hd' : i.dynamicGas ((s.above below).fetched s.code[s.pc]) = .ok d :=
    (Instruction.dynamicGas_above (s := s.fetched s.code[s.pc]) (by rw [hd]; nofun)).trans hd
  exact prepare_paid (s := s.above below) hi hd' hg

theorem prepare_error_above {s u : State} {h : s.pc < s.code.size} {e : Fault} (hp : s.prepare h = .error (e, u))
    (hne : e ≠ .stackUnderflow) : (s.above below).prepare h = .error (e, u.above below) := by
  rcases prepare_error hp with ⟨hi, rfl, rfl⟩ | ⟨i, hi, rfl, hd | ⟨d, hd, rfl, hg⟩⟩
  · exact prepare_invalid (s := u.above below) hi
  · have hd' : i.dynamicGas ((s.above below).fetched s.code[s.pc]) = .error e :=
      (Instruction.dynamicGas_above (s := s.fetched s.code[s.pc]) (by rw [hd]; simpa using hne)).trans hd
    exact prepare_uncharged (s := s.above below) hi hd'
  · have hd' : i.dynamicGas ((s.above below).fetched s.code[s.pc]) = .ok d :=
      (Instruction.dynamicGas_above (s := s.fetched s.code[s.pc]) (by rw [hd]; nofun)).trans hd
    exact prepare_short (s := s.above below) hi hd' hg

theorem Moves.above {s t : State} {p : Paid} (hm : Moves s p t)
    (hroom : t.stack.size + below.length ≤ Stack.limit) :
    Moves (s.above below) (p.above below) (t.above below) := by
  obtain ⟨h, hp, hf⟩ := hm
  refine ⟨h, prepare_above hp, ?_⟩
  change p.instruction.perform (p.state.above below) = _
  rw [Instruction.perform_above (by rw [hf]; nofun) (by rw [hf]; exact hroom), hf]
  rfl

/-- the states that a run reaches are reached on top of words for which all of them have room -/
theorem Reaches.above {s t : State} {ps : List Paid} (hr : Reaches s ps t)
    (hroom : ∀ qs u, Reaches s qs u → u.stack.size + below.length ≤ Stack.limit) :
    Reaches (s.above below) (ps.map (Paid.above below)) (t.above below) := by
  induction hr with
  | start => exact .start
  | next hr hm ih =>
    rw [List.map_append]
    exact .next ih (hm.above (hroom _ _ (hr.next hm)))

/-- and the run ends in the same way, unless it lacks a word -/
theorem Ends.above {s : State} {ps : List Paid} {out : Outcome} (he : Ends s ps out)
    (hne : out.fault? ≠ some .stackUnderflow)
    (hroom : ∀ qs u, Reaches s qs u → u.stack.size + below.length ≤ Stack.limit) :
    Ends (s.above below) (ps.map (Paid.above below)) (out.above below) := by
  cases he with
  | done hr hd => exact .done (hr.above hroom) hd
  | @refused ps t u e h hr hp =>
    exact .refused (t := t.above below) h (hr.above hroom) (prepare_error_above hp fun hc => hne (congrArg some hc))
  | @failed ps p t u e h hr hp hf =>
    rw [List.map_append]
    refine .failed (t := t.above below) h (hr.above hroom) (prepare_above hp) ?_
    -- the instruction leaves the stack that the step found
    have hstep : t.step h = .fault e u := by simp [State.step, hp, hf]
    have hkeep : u.stack = t.stack := (step_fault_keeps hstep).2.1
    change p.instruction.perform (p.state.above below) = _
    rw [Instruction.perform_above (by rw [hf]; exact hne), hf]
    · rfl
    · rw [hf, Outcome.state, hkeep]
      exact hroom _ _ hr

/-- what holds of every state that a step is taken from, and of the last state, holds of every state reached -/
theorem Reaches.of_attempts {s t : State} {ps : List Paid} (hr : Reaches s ps t) {P : State → Prop}
    (hsteps : ∀ u ∈ s.attempts, P u) (hlast : P s.execute.state) : P t := by
  by_cases hlt : t.pc < t.code.size
  · exact hsteps t (List.mem_of_getElem? ((getElem?_attempts s ps.length t).2 ⟨hlt, ps, rfl, hr⟩))
  · rwa [hr.execute, execute_of_done (Nat.le_of_not_lt hlt)] at hlast

/-- **The operand stack has a frame property.** Put any state on top of the words `below`. If its run does not end in a
stack underflow, and with `below` no state that it reaches has more than 1024 words, then the run on top of `below` ends
in the same success or fault, in the same state on top of `below`. -/
theorem run_above_words (s : State) (below : List Word) (hne : s.execute.fault? ≠ some .stackUnderflow)
    (hroom : ∀ ps t, Reaches s ps t → t.stack.size + below.length ≤ 1024) :
    let framed := execute { s with stack := ⟨s.stack.words ++ below⟩ }
    framed.fault? = s.execute.fault? ∧
      framed.state = { s.execute.state with stack := ⟨s.execute.state.stack.words ++ below⟩ } := by
  intro framed
  have hends := ends_history s
  rw [history_outcome] at hends
  have hframed : framed = s.execute.above below := (hends.above hne hroom).execute
  rw [hframed]
  exact ⟨Outcome.fault?_above _, Outcome.state_above _⟩

/-- the power of two that the word on top says, stored, on top of as many words as there is room for -/
theorem above_full_stack :
    let s := { start #[0x60, 0x02, 0x0a, 0x60, 0x00, 0x52] 200 with stack := ⟨[5]⟩ }
    let framed := execute { s with stack := ⟨[5] ++ List.replicate 1022 7⟩ }
    framed.fault? = none ∧ framed.state.stack.words = List.replicate 1022 7 ∧
      framed.state.memory.bytes[31]? = some 32 := by
  intro s framed
  have hne : s.execute.fault? ≠ some .stackUnderflow := by decide +kernel
  have hroom (ps : List Paid) (t : State) (hr : Reaches s ps t) :
      t.stack.size + (List.replicate 1022 (7 : Word)).length ≤ 1024 := by
    rw [List.length_replicate]
    exact hr.of_attempts (P := fun t => t.stack.size + 1022 ≤ 1024) (by decide +kernel) (by decide +kernel)
  obtain ⟨hfault, hstate⟩ := run_above_words s (List.replicate 1022 7) hne hroom
  have hend : s.execute.fault? = none ∧ s.execute.state.stack.words = [] ∧
      s.execute.state.memory.bytes[31]? = some 32 := by
    decide +kernel
  change framed.state = _ at hstate
  refine ⟨hfault.trans hend.1, ?_, ?_⟩
  · rw [hstate, hend.2.1]; rfl
  · rw [hstate]; exact hend.2.2

end State

end GasMachine
