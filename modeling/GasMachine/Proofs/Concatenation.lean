import Mathlib.Tactic
import GasMachine.Proofs.Account
import GasMachine.Proofs.Place
/-
Runs of code that stands in longer code.

`placed before after` puts the code of a state between two others, and the place as far in. An instruction sees of its
code only the bytes at its place, so that placed it does what it did, and a step a step (`Moves.placed`): with one
exception, a push whose bytes the code does not hold, which reads on into `after`. Two ends of a run are due to the end
of its code (`AtCodeEnd`), that it is used up and that a push was cut off; every other is kept whatever comes after, and
with nothing after it all of them are (`Ends.placed`).

`run_append` puts a run of `c₁ ++ c₂` together from the two: the run of `c₁` has `c₂` after it, and where that succeeds
the run of `c₂` goes on from the state it left, with `c₁` before it.
-/
namespace GasMachine

/-- the state with its code placed between `before` and `after` -/
def State.placed (before after : Bytes) (s : State) : State :=
  { s with code := before ++ s.code ++ after, pc := before.size + s.pc }

/-- the outcome with its code placed between `before` and `after` -/
def Outcome.placed (before after : Bytes) : Outcome → Outcome
  | .ok s => .ok (s.placed before after)
  | .fault e s => .fault e (s.placed before after)

/-- the paid instruction with its code placed between `before` and `after` -/
def Paid.placed (before after : Bytes) (p : Paid) : Paid :=
  { p with offset := before.size + p.offset, state := p.state.placed before after }

/-- the outcome is due to the end of the code: it is used up, or ends before what a push reads -/
def Outcome.AtCodeEnd : Outcome → Prop
  | .ok _ => True
  | .fault (.truncated _) _ => True
  | .fault _ _ => False

variable (before after : Bytes)

theorem Outcome.fault?_placed (out : Outcome) : (out.placed before after).fault? = out.fault? := by
  cases out with
  | ok s => rfl
  | fault e s => rfl

theorem Outcome.state_placed (out : Outcome) : (out.placed before after).state = out.state.placed before after := by
  cases out with
  | ok s => rfl
  | fault e s => rfl

/-! ## Reading the code -/

theorem extract_placed {code : Bytes} {pc n : ℕ} (h : pc + n ≤ code.size) :
    (before ++ code ++ after).extract (before.size + pc) (before.size + pc + n) = code.extract pc (pc + n) := by
  apply Array.ext
  · simp only [Array.size_extract, Array.size_append]
    omega
  · intro i h₁ h₂
    rw [Array.size_extract] at h₂
    have hin : before.size + pc + i < (before ++ code).size := by rw [Array.size_append]; omega
    rw [Array.getElem_extract, Array.getElem_extract, Array.getElem_append_left hin,
      Array.getElem_append_right (by omega)]
    simp only [Nat.add_assoc, Nat.add_sub_cancel_left]

namespace State

theorem placed_lt {s : State} (h : s.pc < s.code.size) :
    (s.placed before after).pc < (s.placed before after).code.size := by
  simp only [placed, Array.size_append]
  omega

theorem placed_byte {s : State} (h : s.pc < s.code.size)
    (h' : (s.placed before after).pc < (s.placed before after).code.size) :
    (s.placed before after).code[(s.placed before after).pc] = s.code[s.pc] := by
  have hin : before.size + s.pc < (before ++ s.code).size := by rw [Array.size_append]; omega
  simp only [placed]
  rw [Array.getElem_append_left hin, Array.getElem_append_right (Nat.le_add_right _ _)]
  simp only [Nat.add_sub_cancel_left]

theorem nextBytes_placed {s : State} {n : ℕ} (h : s.pc + n ≤ s.code.size) :
    (s.placed before after).nextBytes n = s.nextBytes n := by
  have hall : (s.placed before after).pc + n ≤ (s.placed before after).code.size := by
    simp only [placed, Array.size_append]
    omega
  rw [nextBytes, nextBytes, if_pos hall, if_pos h]
  simp only [placed, extract_placed before after h]

end State

/-! ## Instructions -/

namespace Instruction

theorem dynamicGas_placed (i : Instruction) (s : State) : i.dynamicGas (s.placed before after) = i.dynamicGas s := by
  cases i <;> rfl

theorem push_placed_of_le {s : State} (h : s.pc + width s ≤ s.code.size) :
    push (s.placed before after) = (push s).placed before after := by
  have hwidth : width (s.placed before after) = width s := rfl
  unfold push
  rw [hwidth, State.nextBytes_placed before after h]
  generalize width s = n
  cases s.nextBytes n with
  | error e => rfl
  | ok bs =>
    dsimp only
    cases Word.ofBytes bs with
    | error e => rfl
    | ok w =>
      dsimp only [State.placed]
      cases s.stack.push w with
      | error e => rfl
      | ok stack => simp only [Outcome.placed, State.placed, Nat.add_assoc]

/-- an instruction does in longer code what it does in its own, unless it is a push that its own code cuts off -/
theorem perform_placed (i : Instruction) {s : State} (h : after = #[] ∨ ∀ b u, i.perform s ≠ .fault (.truncated b) u) :
    i.perform (s.placed before after) = (i.perform s).placed before after := by
  rcases perform_kind i with ⟨-, op, hi⟩ | ⟨-, bytes, hi, -⟩ | ⟨-, hi, -⟩
  · rw [hi]
    simp only [binary_eq, State.placed]
    split <;> rfl
  · rw [hi]
    simp only [store_eq, State.placed]
    split
    · split
      · rfl
      · split <;> rfl
    · rfl
  · rw [hi] at h ⊢
    rcases Nat.lt_or_ge s.code.size (s.pc + width s) with hlt | hle
    · have hcut := push_of_cut hlt
      rcases h with rfl | hne
      · -- nothing comes after, so the push is cut off there as well
        have hlt' : (s.placed before #[]).code.size < (s.placed before #[]).pc + width (s.placed before #[]) := by
          have hwidth : width (s.placed before #[]) = width s := rfl
          rw [hwidth]
          simp only [State.placed, Array.size_append, Array.size_empty]
          omega
        rw [push_of_cut hlt', hcut]
        rfl
      · exact absurd hcut (hne _ _)
    · exact push_placed_of_le before after hle

end Instruction

/-! ## Steps and runs -/

namespace State

theorem prepare_placed {s : State} {h : s.pc < s.code.size} {p : Paid} (hp : s.prepare h = .ok p) :
    (s.placed before after).prepare (placed_lt before after h) = .ok (p.placed before after) := by
  obtain ⟨i, d, hi, hd, hg, rfl⟩ := prepare_ok hp
  have hb := placed_byte before after h (placed_lt before after h)
  rw [← hb] at hi hd
  have hd' := (i.dynamicGas_placed before after (s.fetched _)).trans hd
  rw [prepare_paid (s := s.placed before after) (h := placed_lt before after h) hi hd' hg, hb]
  rfl

theorem prepare_error_placed {s u : State} {h : s.pc < s.code.size} {e : Fault} (hp : s.prepare h = .error (e, u)) :
    (s.placed before after).prepare (placed_lt before after h) = .error (e, u.placed before after) := by
  have hb := placed_byte before after h (placed_lt before after h)
  rcases prepare_error hp with ⟨hi, rfl, rfl⟩ | ⟨i, hi, rfl, hd | ⟨d, hd, rfl, hg⟩⟩
  · rw [← hb] at hi ⊢
    exact prepare_invalid (s := u.placed before after) hi
  · rw [← hb] at hi hd ⊢
    exact prepare_uncharged (s := s.placed before after) hi ((i.dynamicGas_placed before after (s.fetched _)).trans hd)
  · rw [← hb] at hi hd ⊢
    exact prepare_short (s := s.placed before after) hi ((i.dynamicGas_placed before after (s.fetched _)).trans hd) hg

theorem Moves.placed {s t : State} {p : Paid} (hm : Moves s p t) :
    Moves (s.placed before after) (p.placed before after) (t.placed before after) := by
  obtain ⟨h, hp, hf⟩ := hm
  refine ⟨placed_lt before after h, prepare_placed before after hp, ?_⟩
  change p.instruction.perform (p.state.placed before after) = _
  rw [p.instruction.perform_placed before after (.inr fun b u hc => by rw [hf] at hc; cases hc), hf]
  rfl

theorem Reaches.placed {s t : State} {ps : List Paid} (hr : Reaches s ps t) :
    Reaches (s.placed before after) (ps.map (Paid.placed before after)) (t.placed before after) := by
  induction hr with
  | start => exact .start
  | next _ hm ih =>
    rw [List.map_append]
    exact .next ih (hm.placed before after)

/-- an end of a run that is not due to the end of its code is the same in longer code, and with nothing after it every
end is -/
theorem Ends.placed {s : State} {ps : List Paid} {out : Outcome} (he : Ends s ps out)
    (h : after = #[] ∨ ¬ out.AtCodeEnd) :
    Ends (s.placed before after) (ps.map (Paid.placed before after)) (out.placed before after) := by
  cases he with
  | @done ps t hr hd =>
    rcases h with rfl | hn
    · refine .done (hr.placed before #[]) ?_
      simp only [State.placed, Array.size_append, Array.size_empty]
      omega
    · exact absurd trivial hn
  | refused hlt hr hp =>
    exact .refused (placed_lt before after hlt) (hr.placed before after) (prepare_error_placed before after hp)
  | @failed ps p t u e hlt hr hp hf =>
    rw [List.map_append]
    refine .failed (placed_lt before after hlt) (hr.placed before after) (prepare_placed before after hp) ?_
    change p.instruction.perform (p.state.placed before after) = _
    rw [p.instruction.perform_placed before after, hf]
    · rfl
    · refine h.imp_right fun hn b v hc => ?_
      rw [hf] at hc
      cases hc
      exact hn trivial

/-! ## Concatenation -/

theorem start_placed (code after : Bytes) (g : UInt64) : (start code g).placed #[] after = start (code ++ after) g := by
  simp [start, State.placed]

/-- where the first part succeeds, the second goes on from the state it left -/
theorem run_append_of_ok {c₁ : Bytes} {g : UInt64} {s : State} (h : run c₁ g = .ok s) (c₂ : Bytes) :
    run (c₁ ++ c₂) g = (execute { s with code := c₂, pc := 0 }).placed c₁ #[] := by
  have hends := ends_run c₁ g
  rw [h] at hends
  obtain ⟨hcode, hpc⟩ := hends.pc_eq (Nat.zero_le _)
  have hreach := hends.reaches.placed #[] c₂
  rw [start_placed] at hreach
  -- the end of the first part in the whole code is the beginning of the second
  have hjoin : s.placed #[] c₂ = State.placed c₁ #[] { s with code := c₂, pc := 0 } := by
    simp [State.placed, hcode, hpc, start]
  have hrest := (ends_history { s with code := c₂, pc := 0 }).placed c₁ #[] (.inl rfl)
  rw [history_outcome, ← hjoin] at hrest
  exact hreach.execute.trans hrest.execute

/-- where the first part ends for another reason than its length, so does the whole -/
theorem run_append_of_not_atCodeEnd {c₁ : Bytes} {g : UInt64} (h : ¬ (run c₁ g).AtCodeEnd) (c₂ : Bytes) :
    run (c₁ ++ c₂) g = (run c₁ g).placed #[] c₂ := by
  have hends := (ends_run c₁ g).placed #[] c₂ (.inr h)
  rw [start_placed] at hends
  exact hends.execute

/-- what a run has used and grown, it has used and grown in longer code -/
theorem Ends.le_placed {limit : UInt64} {s : State} {ps : List Paid} {out : Outcome} (he : Ends s ps out)
    (hs : Sound limit s) :
    out.state.gasUsed.toNat ≤ (s.placed before after).execute.state.gasUsed.toNat ∧
      out.state.memory.words ≤ (s.placed before after).execute.state.memory.words := by
  -- from a state that both runs reach, the longer one only adds
  have goesOn {ps : List Paid} {t : State} (hr : Reaches s ps t) :
      Sound limit (t.placed before after) ∧
        t.gasUsed.toNat ≤ (s.placed before after).execute.state.gasUsed.toNat ∧
        t.memory.words ≤ (s.placed before after).execute.state.memory.words := by
    obtain ⟨hwhole, hpaid, hcons, hcov⟩ := (hr.sound hs).1
    have ht : Sound limit (t.placed before after) := ⟨hwhole, hpaid, hcons, hcov⟩
    have hend := ends_history (t.placed before after)
    rw [history_outcome] at hend
    rw [(hr.placed before after).execute]
    exact ⟨ht, hend.used_le ht, (hend.halted ht).2⟩
  cases he with
  | done hr hd => exact (goesOn hr).2
  | refused h hr hp =>
    obtain ⟨-, hmem, hused⟩ := (hr.sound hs).1.refused hp
    rw [Outcome.state, hmem, hused]
    exact (goesOn hr).2
  | @failed ps p t u e h hr hp hf =>
    obtain ⟨rfl, -⟩ := (hr.sound hs).1.failed hp hf
    obtain ⟨ht, -, hwords⟩ := goesOn hr
    have hused := ht.used_le_execute (prepare_placed before after hp)
    rw [← (hr.placed before after).execute] at hused
    rw [Outcome.state, (prepare_bill (hr.sound hs).1 hp).memory]
    exact ⟨hused, hwords⟩

/-- **Runs compose over concatenation of code.** If the run of `c₁` succeeds, the run of `c₁ ++ c₂` is the run of `c₂`
from the state it leaves, with the place counted from the start of `c₁`. If it faults, other than in a push that is cut
off, the run of `c₁ ++ c₂` faults likewise in the same state. However it ends, cut off or not, it has used no more gas
and left no more memory than the run of `c₁ ++ c₂`. -/
theorem run_append (c₁ c₂ : Bytes) (g : UInt64) :
    (∀ s₁, run c₁ g = .ok s₁ →
      let rest := execute { s₁ with code := c₂, pc := 0 }
      (run (c₁ ++ c₂) g).fault? = rest.fault? ∧
      (run (c₁ ++ c₂) g).state = { rest.state with code := c₁ ++ c₂, pc := c₁.size + rest.state.pc }) ∧
    (∀ e s₁, run c₁ g = .fault e s₁ → (∀ b, e ≠ .truncated b) →
      run (c₁ ++ c₂) g = .fault e { s₁ with code := c₁ ++ c₂ }) ∧
    (run c₁ g).state.gasUsed ≤ (run (c₁ ++ c₂) g).state.gasUsed ∧
    (run c₁ g).state.memory.byteLength ≤ (run (c₁ ++ c₂) g).state.memory.byteLength := by
  refine ⟨?_, ?_, ?_⟩
  · intro s₁ hok rest
    have hcode : rest.state.code = c₂ := by
      have hrest := ends_history { s₁ with code := c₂, pc := 0 }
      rw [history_outcome] at hrest
      exact (hrest.place (Nat.zero_le _)).1
    rw [run_append_of_ok hok, Outcome.fault?_placed, Outcome.state_placed]
    refine ⟨rfl, ?_⟩
    change State.placed c₁ #[] rest.state = _
    simp [State.placed, hcode]
  · intro e s₁ hf hne
    have hend : ¬ (run c₁ g).AtCodeEnd := by
      rw [hf]
      cases e with
      | truncated b => exact absurd rfl (hne b)
      | _ => exact id
    have hcode : s₁.code = c₁ := by
      have hplace := ((ends_run c₁ g).place (Nat.zero_le _)).1
      rw [hf] at hplace
      exact hplace
    rw [run_append_of_not_atCodeEnd hend, hf]
    simp [Outcome.placed, State.placed, hcode]
  · have hle := (ends_run c₁ g).le_placed #[] c₂ (sound_start c₁ g)
    rw [start_placed] at hle
    change _ ≤ (run (c₁ ++ c₂) g).state.gasUsed.toNat ∧ _ ≤ (run (c₁ ++ c₂) g).state.memory.words at hle
    have h₁ := ((ends_run c₁ g).halted (sound_start c₁ g)).1.whole
    have h₂ := ((ends_run (c₁ ++ c₂) g).halted (sound_start (c₁ ++ c₂) g)).1.whole
    rw [UInt64.le_iff_toNat_le, UInt64.le_iff_toNat_le, h₁.byteLength_toNat, h₂.byteLength_toNat, h₁.size_eq,
      h₂.size_eq]
    omega

/-- a store followed by a sum that finds one word, and the two the other way round -/
theorem append_store_and_sum :
    let c₁ := #[0x60, 0x05, 0x60, 0x00, 0x52]
    let c₂ := #[0x60, 0x07, 0x01]
    (∃ s₁, run c₁ 100 = .ok s₁ ∧ (run (c₁ ++ c₂) 100).fault? = some .stackUnderflow ∧
      (run (c₁ ++ c₂) 100).state.pc = 8) ∧
    ∃ s₂, run c₂ 100 = .fault .stackUnderflow s₂ ∧
      run (c₂ ++ c₁) 100 = .fault .stackUnderflow { s₂ with code := c₂ ++ c₁ } := by
  intro c₁ c₂
  have hok : run c₁ 100 = .ok (run c₁ 100).state := by decide +kernel
  have hrest : (execute { (run c₁ 100).state with code := c₂, pc := 0 }).fault? = some .stackUnderflow ∧
      (execute { (run c₁ 100).state with code := c₂, pc := 0 }).state.pc = 3 := by
    decide +kernel
  have hf : run c₂ 100 = .fault .stackUnderflow (run c₂ 100).state := by decide +kernel
  obtain ⟨hfault, hstate⟩ := (run_append c₁ c₂ 100).1 _ hok
  refine ⟨⟨_, hok, hfault.trans hrest.1, ?_⟩, _, hf, (run_append c₂ c₁ 100).2.1 _ _ hf fun b => nofun⟩
  rw [hstate]
  exact congrArg (c₁.size + ·) hrest.2

end State

end GasMachine
