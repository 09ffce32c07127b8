import Mathlib.Tactic
import GasMachine.Machine.Run
import GasMachine.Proofs.Charge
/-
The states of a run, and the ways in which it ends.

`Moves` is one step that does not fault, `Reaches` a number of them, with the instructions paid for on the way in
order. The states a run reaches are those between its steps. `Ends` is how a run from a state ends: with the code used
up, in a step that was not paid for, or in an instruction that was paid for and faulted. `history` runs like `execute`
and keeps what is paid for; `ends_history` says that the history of a run is such an end, and `history_outcome` that its
outcome is the one of `execute`, so that what holds of every end holds of every run.
-/
namespace GasMachine

/-- an outcome without a fault is that of its state -/
theorem Outcome.eq_ok {out : Outcome} (h : out.fault? = none) : out = .ok out.state := by
  cases out with
  | ok s => rfl
  | fault e s => cases h

namespace State

/-- a step from `s` to `t` that does not fault, and the instruction it pays for -/
def Moves (s : State) (p : Paid) (t : State) : Prop :=
  ∃ h : s.pc < s.code.size, s.prepare h = .ok p ∧ p.instruction.perform p.state = .ok t

/-- steps from `s` that do not fault, and the instructions they pay for, first to last -/
inductive Reaches (s : State) : List Paid → State → Prop where
  | start : Reaches s [] s
  | next {ps : List Paid} {p : Paid} {t u : State} : Reaches s ps t → Moves t p u → Reaches s (ps ++ [p]) u

/-- how a run from `s` ends, and the instructions it pays for -/
inductive Ends (s : State) : List Paid → Outcome → Prop where
  | done {ps : List Paid} {t : State} : Reaches s ps t → t.code.size ≤ t.pc → Ends s ps (.ok t)
  | refused {ps : List Paid} {t u : State} {e : Fault} (h : t.pc < t.code.size) : Reaches s ps t →
      t.prepare h = .error (e, u) → Ends s ps (.fault e u)
  | failed {ps : List Paid} {p : Paid} {t u : State} {e : Fault} (h : t.pc < t.code.size) : Reaches s ps t →
      t.prepare h = .ok p → p.instruction.perform p.state = .fault e u → Ends s (ps ++ [p]) (.fault e u)

/-! ## Steps in front -/

theorem Reaches.head {s t u : State} {p : Paid} {ps : List Paid} (hm : Moves s p t) (hr : Reaches t ps u) :
    Reaches s (p :: ps) u := by
  induction hr with
  | start => exact .next .start hm
  | next _ hm' ih => exact .next ih hm'

theorem Reaches.nil {s t : State} (hr : Reaches s [] t) : t = s := by
  generalize hps : ([] : List Paid) = ps at hr
  cases hr with
  | start => rfl
  | next _ _ => simp at hps

/-- the first of a number of steps, and the others -/
theorem Reaches.uncons {s u : State} {p : Paid} {ps : List Paid} (hr : Reaches s (p :: ps) u) :
    ∃ t, Moves s p t ∧ Reaches t ps u := by
  generalize hqs : p :: ps = qs at hr
  induction hr generalizing ps with
  | start => cases hqs
  | @next qs q t u hr hm ih =>
    cases qs with
    | nil =>
      cases hqs
      rw [hr.nil] at hm
      exact ⟨u, hm, .start⟩
    | cons q' qs =>
      cases hqs
      obtain ⟨v, hfirst, hrest⟩ := ih rfl
      exact ⟨v, hfirst, hrest.next hm⟩

theorem Ends.head {s t : State} {p : Paid} {ps : List Paid} {out : Outcome} (hm : Moves s p t) (he : Ends t ps out) :
    Ends s (p :: ps) out := by
  cases he with
  | done hr hd => exact .done (hr.head hm) hd
  | refused h hr hp => exact .refused h (hr.head hm) hp
  | failed h hr hp hf => exact .failed h (hr.head hm) hp hf

/-! ## Runs as functions -/

theorem execute_of_done {s : State} (h : s.code.size ≤ s.pc) : s.execute = .ok s := by
  rw [execute, dif_neg (by omega)]

theorem execute_of_ok {s t : State} {h : s.pc < s.code.size} (hs : s.step h = .ok t) : s.execute = t.execute := by
  rw [execute, dif_pos h]
  split
  · rename_i t' ht'
    rw [hs] at ht'
    cases ht'; rfl
  · rename_i ht'
    rw [hs] at ht'
    cases ht'

theorem execute_of_fault {s t : State} {e : Fault} {h : s.pc < s.code.size} (hs : s.step h = .fault e t) :
    s.execute = .fault e t := by
  rw [execute, dif_pos h]
  split
  · rename_i ht'
    rw [hs] at ht'
    cases ht'
  · rename_i ht'
    rw [hs] at ht'
    cases ht'; rfl

theorem Moves.step {s t : State} {p : Paid} (hm : Moves s p t) : ∃ h, s.step h = .ok t := by
  obtain ⟨h, hp, hf⟩ := hm
  exact ⟨h, by simp [State.step, hp, hf]⟩

theorem moves_of_step {s t : State} {h : s.pc < s.code.size} (hs : s.step h = .ok t) : ∃ p, Moves s p t := by
  unfold State.step at hs
  split at hs
  · cases hs
  · rename_i p hp
    exact ⟨p, h, hp, hs⟩

/-- a run goes on from any state it reaches -/
theorem Reaches.execute {s t : State} {ps : List Paid} (hr : Reaches s ps t) : s.execute = t.execute := by
  induction hr with
  | start => rfl
  | next _ hm ih =>
    obtain ⟨h, hs⟩ := hm.step
    rw [ih, execute_of_ok hs]

/-- an end is the outcome of the run -/
theorem Ends.execute {s : State} {ps : List Paid} {out : Outcome} (he : Ends s ps out) : s.execute = out := by
  cases he with
  | done hr hd => rw [hr.execute, execute_of_done hd]
  | refused h hr hp => rw [hr.execute]; exact execute_of_fault (h := h) (by simp [State.step, hp])
  | failed h hr hp hf => rw [hr.execute]; exact execute_of_fault (h := h) (by simp [State.step, hp, hf])

/-- a run that succeeds ends in a state that it reaches -/
theorem Ends.reaches {s t : State} {ps : List Paid} (he : Ends s ps (.ok t)) : Reaches s ps t := by
  cases he with
  | done hr hd => exact hr

/-- a run that faults does so in a step from a state that it reaches. The step is not paid for, or it is, and then one
more is paid for than there are steps before it -/
theorem Ends.faulting_step {s u : State} {ps : List Paid} {e : Fault} (he : Ends s ps (.fault e u)) :
    ∃ qs t, ∃ h : t.pc < t.code.size, Reaches s qs t ∧ t.step h = .fault e u ∧
      ((t.prepare h = .error (e, u) ∧ ps.length = qs.length) ∨
       ∃ p, t.prepare h = .ok p ∧ p.instruction.perform p.state = .fault e u ∧ ps.length = qs.length + 1) := by
  cases he with
  | refused h hr hp => exact ⟨_, _, h, hr, by simp [State.step, hp], .inl ⟨hp, rfl⟩⟩
  | failed h hr hp hf => exact ⟨_, _, h, hr, by simp [State.step, hp, hf], .inr ⟨_, hp, hf, by simp⟩⟩

/-- the instructions paid for up to the end or the first fault, and the outcome -/
def history (s : State) : List Paid × Outcome :=
  if h : s.pc < s.code.size then
    match _hp : s.prepare h with
    | .error (e, s') => ([], .fault e s')
    | .ok p =>
      match _hs : p.instruction.perform p.state with
      | .ok s' => let (rest, out) := history s'; (p :: rest, out)
      | .fault e s' => ([p], .fault e s')
  else ([], .ok s)
termination_by s.code.size - s.pc
decreasing_by
  have h1 := prepare_keeps _hp
  have h2 := perform_keeps _hs
  rw [h2.1, h1.1]
  omega

/-- **Every run ends**, and its history is how. -/
theorem ends_history (s : State) : Ends s s.history.1 s.history.2 := by
  fun_induction history s with
  | case1 s h e t hp => exact .refused h .start hp
  | case2 s h p hp t hf rest out heq ih =>
    rw [heq] at ih
    exact ih.head ⟨h, hp, hf⟩
  | case3 s h p hp e t hf => exact .failed h .start hp hf
  | case4 s h => exact .done .start (by omega)

/-- the outcome kept with the history is the one of the run -/
theorem history_outcome (s : State) : s.history.2 = s.execute := (ends_history s).execute.symm

theorem history_of_moves {s t : State} {p : Paid} (hm : Moves s p t) :
    s.history = (p :: t.history.1, t.history.2) := by
  obtain ⟨h, hp, hf⟩ := hm
  rw [history, dif_pos h]
  split
  · rename_i hp'
    rw [hp] at hp'
    cases hp'
  · rename_i p' hp'
    rw [hp] at hp'
    cases hp'
    split
    · rename_i hf'
      rw [hf] at hf'
      cases hf'; rfl
    · rename_i hf'
      rw [hf] at hf'
      cases hf'

/-- a step that faults is the end of the history, paid for or not -/
theorem history_of_fault {s u : State} {h : s.pc < s.code.size} {e : Fault} (hs : s.step h = .fault e u) :
    s.history.1 = [] ∨ ∃ p, s.prepare h = .ok p ∧ s.history.1 = [p] := by
  unfold State.step at hs
  rw [history, dif_pos h]
  split
  · exact .inl rfl
  · rename_i p hp
    simp only [hp] at hs
    split
    · rename_i hf
      rw [hs] at hf
      cases hf
    · exact .inr ⟨p, hp, rfl⟩

/-- what is paid for up to a state is the first part of the history -/
theorem Reaches.history {s t : State} {ps : List Paid} (hr : Reaches s ps t) : s.history.1 = ps ++ t.history.1 := by
  induction hr with
  | start => rfl
  | next _ hm ih => rw [ih, history_of_moves hm]; simp

theorem ends_run (code : Bytes) (gasLimit : UInt64) :
    Ends (start code gasLimit) (start code gasLimit).history.1 (run code gasLimit) := by
  have h := ends_history (start code gasLimit)
  rwa [history_outcome] at h

end State

end GasMachine
