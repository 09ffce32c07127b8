import Mathlib.Tactic
import GasMachine.Proofs.Account
/-
The gas limit is only a cut-off.

No charge and no instruction looks at the gas left, and only the comparison in paying for a step does. So a state with
more gas left (`moreGas`) goes the same way, as long as the state with less does not run out: `Reaches.moreGas`
carries the states of a run over to a run with a higher limit, and `Ends.moreGas` the end. `gas_limit_is_cutoff` draws
the two consequences: a run that does not run out is the same for every higher limit, and the limits for which a run
does run out are exactly those below the gas that it uses when it does not.
-/
namespace GasMachine

/-- the state with `d` more gas left -/
def State.moreGas (s : State) (d : UInt64) : State := { s with gasRemaining := s.gasRemaining + d }

/-- the outcome with `d` more gas left -/
def Outcome.moreGas (d : UInt64) : Outcome → Outcome
  | .ok s => .ok (s.moreGas d)
  | .fault e s => .fault e (s.moreGas d)

/-- the paid instruction with `d` more gas left -/
def Paid.moreGas (p : Paid) (d : UInt64) : Paid := { p with state := p.state.moreGas d }

theorem Outcome.fault?_moreGas (out : Outcome) (d : UInt64) : (out.moreGas d).fault? = out.fault? := by
  cases out with
  | ok s => rfl
  | fault e s => rfl

theorem Outcome.state_moreGas (out : Outcome) (d : UInt64) : (out.moreGas d).state = out.state.moreGas d := by
  cases out with
  | ok s => rfl
  | fault e s => rfl

namespace Instruction

theorem dynamicGas_moreGas (i : Instruction) (s : State) (d : UInt64) :
    i.dynamicGas (s.moreGas d) = i.dynamicGas s := by
  cases i <;> rfl

/-- an instruction does not look at the gas left -/
theorem perform_moreGas (i : Instruction) (s : State) (d : UInt64) :
    i.perform (s.moreGas d) = (i.perform s).moreGas d := by
  rcases perform_kind i with ⟨-, op, hi⟩ | ⟨-, bytes, hi, -⟩ | ⟨-, hi, -⟩
  · rw [hi]
    simp only [binary_eq, State.moreGas]
    split <;> rfl
  · rw [hi]
    simp only [store_eq, State.moreGas]
    split
    · split
      · rfl
      · split <;> rfl
    · rfl
  · rw [hi]
    have hread (n : ℕ) : (s.moreGas d).nextBytes n = s.nextBytes n := rfl
    have hwidth : width (s.moreGas d) = width s := rfl
    unfold push
    rw [hwidth, hread]
    generalize width s = n
    cases s.nextBytes n with
    | error e => rfl
    | ok bs =>
      dsimp only
      cases Word.ofBytes bs with
      | error e => rfl
      | ok w =>
        dsimp only [State.moreGas]
        cases s.stack.push w with
        | error e => rfl
        | ok stack => rfl

/-- the state-dependent charges never say that the gas is used up -/
theorem dynamicGas_ne_outOfGas (i : Instruction) (s : State) : i.dynamicGas s ≠ .error .outOfGas := by
  intro hd
  rcases dynamicGas_error hd with h | h <;> cases h

/-- and neither do the instructions -/
theorem perform_ne_outOfGas (i : Instruction) (s u : State) : i.perform s ≠ .fault .outOfGas u := by
  intro hf
  rcases i.perform_cases s with ⟨e, he, -, hkind⟩ | ⟨-, v, he⟩ | ⟨t, he, -⟩
  · rw [he] at hf; cases hf
    rcases hkind with h | h | h | h <;> cases h
  · rw [he] at hf; cases hf
  · rw [he] at hf; cases hf

end Instruction

namespace State

theorem charged_moreGas (s : State) (gas : UInt64) (cost : Option UInt64) (d : UInt64) :
    (s.moreGas d).charged gas cost = (s.charged gas cost).moreGas d := by
  have hcomm : s.gasRemaining + d - gas = s.gasRemaining - gas + d := by
    rw [UInt64.sub_eq_add_neg, UInt64.sub_eq_add_neg, UInt64.add_assoc, UInt64.add_comm d, ← UInt64.add_assoc]
  simp only [charged, moreGas, hcomm]

theorem start_moreGas (code : Bytes) (g₁ g₂ : UInt64) : (start code g₁).moreGas (g₂ - g₁) = start code g₂ := by
  have hsum : g₁ + (g₂ - g₁) = g₂ := by rw [UInt64.add_comm, UInt64.sub_add_cancel]
  simp only [start, moreGas, hsum]

/-! ## Steps -/

/-- a step that is paid for is paid for with more gas left -/
theorem prepare_moreGas {s : State} {d : UInt64} (hroom : s.gasRemaining.toNat + d.toNat < 2 ^ 64)
    {h : s.pc < s.code.size} {p : Paid} (hp : s.prepare h = .ok p) : (s.moreGas d).prepare h = .ok (p.moreGas d) := by
  obtain ⟨i, c, hi, hc, hg, rfl⟩ := prepare_ok hp
  have hsum : (s.moreGas d).gasRemaining.toNat = s.gasRemaining.toNat + d.toNat := Checked.toNat_add_of_lt hroom
  have hpay := prepare_paid (s := s.moreGas d) (h := h) hi
    ((i.dynamicGas_moreGas (s.fetched s.code[s.pc]) d).trans hc) (by omega)
  rw [hpay]
  exact congrArg (fun t => Except.ok (Paid.mk s.pc i (i.constantGas + c.gas) t))
    (charged_moreGas (s.fetched s.code[s.pc]) (i.constantGas + c.gas) c.memoryCost d)

/-- a step that is refused for another reason than its gas is refused with more gas left -/
theorem prepare_error_moreGas {s u : State} (d : UInt64) {h : s.pc < s.code.size} {e : Fault}
    (hp : s.prepare h = .error (e, u)) (hne : e ≠ .outOfGas) : (s.moreGas d).prepare h = .error (e, u.moreGas d) := by
  rcases prepare_error hp with ⟨hi, rfl, rfl⟩ | ⟨i, hi, rfl, hd | ⟨c, -, hc, -⟩⟩
  · exact prepare_invalid (s := u.moreGas d) hi
  · exact prepare_uncharged (s := s.moreGas d) hi ((i.dynamicGas_moreGas (s.fetched s.code[s.pc]) d).trans hd)
  · exact absurd hc hne

theorem Moves.moreGas {s t : State} {p : Paid} {d : UInt64} (hm : Moves s p t)
    (hroom : s.gasRemaining.toNat + d.toNat < 2 ^ 64) : Moves (s.moreGas d) (p.moreGas d) (t.moreGas d) := by
  obtain ⟨h, hp, hf⟩ := hm
  refine ⟨h, prepare_moreGas hroom hp, ?_⟩
  change p.instruction.perform (p.state.moreGas d) = _
  rw [Instruction.perform_moreGas, hf]
  rfl

/-! ## Runs -/

theorem Sound.room {limit d : UInt64} {s : State} (hs : Sound limit s) (hroom : limit.toNat + d.toNat < 2 ^ 64) :
    s.gasRemaining.toNat + d.toNat < 2 ^ 64 := by
  have := hs.conserved
  omega

/-- the states that a run reaches are reached with more gas left -/
theorem Reaches.moreGas {limit d : UInt64} {s t : State} {ps : List Paid} (hr : Reaches s ps t) (hs : Sound limit s)
    (hroom : limit.toNat + d.toNat < 2 ^ 64) :
    Reaches (s.moreGas d) (ps.map fun p => p.moreGas d) (t.moreGas d) := by
  induction hr with
  | start => exact .start
  | next hr hm ih =>
    rw [List.map_append]
    exact .next ih (hm.moreGas ((hr.sound hs).1.room hroom))

/-- a run that does not run out of gas ends in the same way with more gas left -/
theorem Ends.moreGas {limit d : UInt64} {s : State} {ps : List Paid} {out : Outcome} (he : Ends s ps out)
    (hs : Sound limit s) (hroom : limit.toNat + d.toNat < 2 ^ 64) (hne : out.fault? ≠ some .outOfGas) :
    Ends (s.moreGas d) (ps.map fun p => p.moreGas d) (out.moreGas d) := by
  cases he with
  | done hr hd => exact .done (hr.moreGas hs hroom) hd
  | @refused ps t u e h hr hp =>
    exact .refused (t := t.moreGas d) h (hr.moreGas hs hroom)
      (prepare_error_moreGas d hp (fun hc => hne (congrArg some hc)))
  | @failed ps p t u e h hr hp hf =>
    rw [List.map_append]
    refine .failed (t := t.moreGas d) h (hr.moreGas hs hroom) (prepare_moreGas ((hr.sound hs).1.room hroom) hp) ?_
    change p.instruction.perform (p.state.moreGas d) = _
    rw [Instruction.perform_moreGas, hf]
    rfl

/-- a run that runs out of gas stops at a step whose charge is known and above the gas left -/
theorem Ends.outOfGas {limit : UInt64} {s : State} {ps : List Paid} {out : Outcome} (he : Ends s ps out)
    (hs : Sound limit s) (hout : out.fault? = some .outOfGas) :
    ∃ t, ∃ h : t.pc < t.code.size, ∃ i c, Reaches s ps t ∧ Instruction.ofByte? t.code[t.pc] = some i ∧
      i.dynamicGas (t.fetched t.code[t.pc]) = .ok c ∧ t.gasRemaining.toNat < i.constantGas.toNat + c.gas.toNat ∧
      out.state = t.fetched t.code[t.pc] := by
  cases he with
  | done hr hd => cases hout
  | @refused ps t u e h hr hp =>
    cases hout
    have ht := (hr.sound hs).1
    rcases prepare_error hp with ⟨-, hc, -⟩ | ⟨i, hi, rfl, hd | ⟨c, hc, -, hg⟩⟩
    · cases hc
    · exact absurd hd (i.dynamicGas_ne_outOfGas _)
    · exact ⟨t, h, i, c, hr, hi, hc, hg, rfl⟩
  | @failed ps p t u e h hr hp hf =>
    cases hout
    exact absurd hf (p.instruction.perform_ne_outOfGas _ _)

theorem run_moreGas (code : Bytes) {g₁ g₂ : UInt64} (hle : g₁ ≤ g₂) (hne : (run code g₁).fault? ≠ some .outOfGas) :
    run code g₂ = (run code g₁).moreGas (g₂ - g₁) := by
  have hsub := UInt64.toNat_sub_of_le _ _ hle
  have hg := UInt64.le_iff_toNat_le.1 hle
  have hlt := UInt64.toNat_lt g₂
  have hends := (ends_run code g₁).moreGas (sound_start code g₁) (d := g₂ - g₁) (by omega) hne
  rw [start_moreGas] at hends
  exact hends.execute

theorem lt_of_outOfGas (code : Bytes) {g g₂ : UInt64} (hout : (run code g).fault? = some .outOfGas)
    (hne : (run code g₂).fault? ≠ some .outOfGas) : g < g₂ := by
  by_contra hn
  have hrun := run_moreGas code (UInt64.not_lt.1 hn) hne
  rw [hrun, Outcome.fault?_moreGas] at hout
  exact hne hout

/-- the charge that a run with too low a limit cannot pay is part of the gas used with a limit that is high enough -/
theorem run_short (code : Bytes) {g g₂ : UInt64} (hout : (run code g).fault? = some .outOfGas)
    (hne : (run code g₂).fault? ≠ some .outOfGas) :
    g < (run code g₂).state.gasUsed ∧
    ∃ ps t, Reaches (start code g₂) ps t ∧ t.pc < t.code.size ∧ t.stack = (run code g).state.stack ∧
      t.memory = (run code g).state.memory ∧ t.gasUsed = (run code g).state.gasUsed := by
  have hlt := lt_of_outOfGas code hout hne
  have hsub := UInt64.toNat_sub_of_le _ _ (UInt64.le_of_lt hlt)
  have hg := UInt64.lt_iff_toNat_lt.1 hlt
  have hlt₂ := UInt64.toNat_lt g₂
  obtain ⟨t, h, i, c, hr, hi, hc, hshort, hstate⟩ := (ends_run code g).outOfGas (sound_start code g) hout
  have hr₂ := hr.moreGas (sound_start code g) (d := g₂ - g) (by omega)
  rw [start_moreGas] at hr₂
  have ht := (hr.sound (sound_start code g)).1
  have ht₂ := (hr₂.sound (sound_start code g₂)).1
  have hc₂ := (i.dynamicGas_moreGas (t.fetched t.code[t.pc]) (g₂ - g)).trans hc
  -- the run with the higher limit pays for the step, or it would run out of gas as well
  rcases Nat.lt_or_ge (t.moreGas (g₂ - g)).gasRemaining.toNat (i.constantGas.toNat + c.gas.toNat) with hs | hp
  · have hrefused := prepare_short (s := t.moreGas (g₂ - g)) (h := h) hi hc₂ hs
    have hend := Ends.refused (t := t.moreGas (g₂ - g)) h hr₂ hrefused
    have hrun : run code g₂ = .fault .outOfGas _ := hend.execute
    rw [hrun] at hne
    exact absurd rfl hne
  · have hpaid := prepare_paid (s := t.moreGas (g₂ - g)) (h := h) hi hc₂ hp
    have hused := (prepare_bill ht₂ hpaid).used
    have hfinal := ht₂.used_le_execute hpaid
    rw [← hr₂.execute, hused] at hfinal
    change t.gasUsed.toNat + (i.constantGas + c.gas).toNat ≤ (run code g₂).state.gasUsed.toNat at hfinal
    have hgas : (i.constantGas + c.gas).toNat = i.constantGas.toNat + c.gas.toNat :=
      Checked.toNat_add_of_lt (by have := UInt64.toNat_lt (t.moreGas (g₂ - g)).gasRemaining; omega)
    have hcons := ht.conserved
    refine ⟨?_, _, _, hr₂, h, ?_, ?_, ?_⟩
    · rw [UInt64.lt_iff_toNat_lt]; omega
    · rw [hstate]; rfl
    · rw [hstate]; rfl
    · rw [hstate]; rfl

/-- **The gas limit is only a cut-off.** A run that does not run out of gas is the same for every higher limit, but for
the gas left over, which is higher by the difference. If a run does not run out and uses `U` gas, then the limits that
make it run out are exactly those below `U`, and with one of them it stops in the stack, memory and gas used of a state
between two steps of the run that does not. -/
theorem gas_limit_is_cutoff (code : Bytes) :
    (∀ g₁ g₂ : UInt64, g₁ ≤ g₂ → (run code g₁).fault? ≠ some .outOfGas →
      (run code g₂).fault? = (run code g₁).fault? ∧
      (run code g₂).state = { (run code g₁).state with gasRemaining := (run code g₂).state.gasRemaining } ∧
      (run code g₂).state.gasRemaining.toNat = (run code g₁).state.gasRemaining.toNat + (g₂.toNat - g₁.toNat)) ∧
    (∀ g₂ : UInt64, (run code g₂).fault? ≠ some .outOfGas → ∀ g : UInt64,
      ((run code g).fault? = some .outOfGas ↔ g < (run code g₂).state.gasUsed) ∧
      ((run code g).fault? = some .outOfGas →
        ∃ ps t, Reaches (start code g₂) ps t ∧ t.pc < t.code.size ∧ t.stack = (run code g).state.stack ∧
          t.memory = (run code g).state.memory ∧ t.gasUsed = (run code g).state.gasUsed)) := by
  constructor
  · intro g₁ g₂ hle hne
    have hrun := run_moreGas code hle hne
    refine ⟨by rw [hrun, Outcome.fault?_moreGas], by rw [hrun, Outcome.state_moreGas]; rfl, ?_⟩
    have h₁ := ((ends_run code g₁).halted (sound_start code g₁)).1.conserved
    have h₂ := ((ends_run code g₂).halted (sound_start code g₂)).1.conserved
    have hused : (run code g₂).state.gasUsed = (run code g₁).state.gasUsed := by
      rw [hrun, Outcome.state_moreGas]; rfl
    have hle' := UInt64.le_iff_toNat_le.1 hle
    rw [hused] at h₂
    omega
  · intro g₂ hne g
    refine ⟨⟨?_, ?_⟩, ?_⟩
    · intro hout
      exact (run_short code hout hne).1
    · -- a run within the lower limit would use as much gas as the one with the higher
      intro hlt
      by_contra hn
      have hcons := ((ends_run code g).halted (sound_start code g)).1.conserved
      have hcons₂ := ((ends_run code g₂).halted (sound_start code g₂)).1.conserved
      have hlt' := UInt64.lt_iff_toNat_lt.1 hlt
      have hle : g ≤ g₂ := by rw [UInt64.le_iff_toNat_le]; omega
      have hrun := run_moreGas code hle hn
      rw [hrun, Outcome.state_moreGas] at hlt'
      have hused : ((run code g).state.moreGas (g₂ - g)).gasUsed = (run code g).state.gasUsed := rfl
      rw [hused] at hlt'
      omega
    · intro hout
      exact (run_short code hout hne).2

/-- a power and the store of it take 125 gas, and run out on any less -/
theorem cutoff_of_power_and_store :
    let code := #[0x61, 0x01, 0x00, 0x60, 0x02, 0x0a, 0x60, 0x00, 0x52]
    (run code 200).fault? ≠ some .outOfGas ∧ ∀ g, (run code g).fault? = some .outOfGas ↔ g < 125 := by
  intro code
  have hne : (run code 200).fault? ≠ some .outOfGas := by decide +kernel
  have hused : (run code 200).state.gasUsed = 125 := by decide +kernel
  refine ⟨hne, fun g => ?_⟩
  rw [← hused]
  exact ((gas_limit_is_cutoff code).2 200 hne g).1

end State

end GasMachine
