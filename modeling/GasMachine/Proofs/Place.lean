import Mathlib.Tactic
import GasMachine.Proofs.Effects
import GasMachine.Proofs.Runs
/-
The place of a run in its code.

A run never changes its code and never leaves it. A step starts at a byte of the code and fetches it, which leads at
most to the end of the code; only a push moves on from there, past bytes that it has found. So a run that starts in its
code stays in it, and one that succeeds ends exactly at the end of it (`Ends.pc_eq`).
-/
namespace GasMachine

/-- an instruction does not leave the code, whether or not it faults -/
theorem Instruction.perform_pc_le (i : Instruction) {s : State} (h : s.pc ≤ s.code.size) :
    (i.perform s).state.pc ≤ s.code.size := by
  rcases perform_kind i with ⟨-, op, hi⟩ | ⟨-, bytes, hi, hbytes⟩ | ⟨-, hi, -⟩
  · rw [hi]
    rcases binary_cases op s with ⟨-, he⟩ | ⟨a, b, rest, -, he⟩
    · rw [he]; exact h
    · rw [he]; exact h
  · rw [hi]
    rcases store_outcome i.writes_le hbytes s with ⟨-, he⟩ | ⟨offset, value, rest, -, ⟨-, he⟩ | ⟨-, m, he, -⟩⟩
    · rw [he]; exact h
    · rw [he]; exact h
    · rw [he]; exact h
  · rw [hi]
    rcases push_outcome s with ⟨e, he, -⟩ | ⟨hn, w, he⟩
    · rw [he]; exact h
    · rw [he]; exact hn

namespace State

/-- a step keeps the code and stays in it, whether or not it faults -/
theorem step_place {s : State} (h : s.pc < s.code.size) :
    (s.step h).state.code = s.code ∧ (s.step h).state.pc ≤ s.code.size := by
  unfold State.step
  split
  · rename_i e u hp
    rcases prepare_error hp with ⟨-, -, rfl⟩ | ⟨i, -, rfl, -⟩
    · exact ⟨rfl, h.le⟩
    · exact ⟨rfl, h⟩
  · rename_i p hp
    obtain ⟨hcode, hpc⟩ := prepare_keeps hp
    have hle := p.instruction.perform_pc_le (s := p.state) (by rw [hcode, hpc]; exact h)
    exact ⟨(p.instruction.perform_account p.state).code.trans hcode, by rw [hcode] at hle; exact hle⟩

theorem Reaches.place {s t : State} {ps : List Paid} (hr : Reaches s ps t) (hs : s.pc ≤ s.code.size) :
    t.code = s.code ∧ t.pc ≤ s.code.size := by
  induction hr with
  | start => exact ⟨rfl, hs⟩
  | next _ hm ih =>
    obtain ⟨h, hstep⟩ := hm.step
    have hplace := step_place h
    rw [hstep, ih.1] at hplace
    exact hplace

/-- wherever a run ends, it is in its code -/
theorem Ends.place {s : State} {ps : List Paid} {out : Outcome} (he : Ends s ps out) (hs : s.pc ≤ s.code.size) :
    out.state.code = s.code ∧ out.state.pc ≤ s.code.size := by
  cases out with
  | ok t => exact he.reaches.place hs
  | fault e u =>
    obtain ⟨qs, t, h, hr, hstep, -⟩ := he.faulting_step
    have hplace := step_place h
    rw [hstep, (hr.place hs).1] at hplace
    exact hplace

/-- a run that succeeds ends at the end of its code -/
theorem Ends.pc_eq {s t : State} {ps : List Paid} (he : Ends s ps (.ok t)) (hs : s.pc ≤ s.code.size) :
    t.code = s.code ∧ t.pc = s.code.size := by
  obtain ⟨hcode, hle⟩ := he.place hs
  cases he with
  | done hr hd =>
    rw [Outcome.state] at hcode hle
    rw [hcode] at hd
    exact ⟨hcode, Nat.le_antisymm hle hd⟩

end State

end GasMachine
