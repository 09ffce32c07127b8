import Mathlib.Tactic
import GasMachine.Proofs.Bill
import GasMachine.Proofs.Listing
/-
The steps of a run, and where it fetches its opcodes.

`attempts` are the states from which a run takes its steps: all of them those that it reaches with code left
(`getElem?_attempts`), in order, and the step from the last is the outcome of the run (`step_getLast_attempts`). It is
the only step that can fail. Each step is taken further on in the code than the one before, so there are at most as many
as there are bytes, and each one that is paid for takes at least 3 gas.

A step fetches the byte at its place. These places are the boundaries of the listing of the code, from the first on and
without a gap (`attempts_boundaries`); hence a byte that belongs to a push is never fetched as an opcode.
-/
namespace GasMachine.State

/-- the states from which a run takes its steps, in order -/
def attempts (s : State) : List State :=
  if h : s.pc < s.code.size then
    match _hs : s.step h with
    | .ok t => s :: attempts t
    | .fault _ _ => [s]
  else []
termination_by s.code.size - s.pc
decreasing_by
  have := step_advances _hs
  rw [this.1]
  omega

/-! ## The steps -/

/-- **The steps of a run** are taken from the states that it reaches with code left: the one after `k` others from the
state reached by `k` steps. -/
theorem getElem?_attempts (s : State) (k : ℕ) (t : State) :
    s.attempts[k]? = some t ↔ t.pc < t.code.size ∧ ∃ ps, ps.length = k ∧ Reaches s ps t := by
  -- the first step is taken from the state itself, whatever comes of it
  have first {s : State} (h : s.pc < s.code.size) :
      some s = some t ↔ t.pc < t.code.size ∧ ∃ ps, ps.length = 0 ∧ Reaches s ps t := by
    constructor
    · rintro ⟨⟩
      exact ⟨h, [], rfl, .start⟩
    · rintro ⟨-, ps, hps, hr⟩
      rw [List.length_eq_zero_iff.1 hps] at hr
      rw [hr.nil]
  fun_induction attempts s generalizing k with
  | case1 s h u hs ih =>
    cases k with
    | zero => exact first h
    | succ k =>
      rw [List.getElem?_cons_succ]
      refine (ih k).trans (and_congr_right fun _ => ?_)
      constructor
      · rintro ⟨ps, rfl, hr⟩
        obtain ⟨p, hm⟩ := moves_of_step hs
        exact ⟨p :: ps, rfl, hr.head hm⟩
      · rintro ⟨_ | ⟨p, ps⟩, hps, hr⟩
        · cases hps
        · obtain ⟨v, hm, hrest⟩ := hr.uncons
          obtain ⟨_, hv⟩ := hm.step
          rw [hs] at hv
          cases hv
          exact ⟨ps, by simpa using hps, hrest⟩
  | case2 s h e u hs =>
    cases k with
    | zero => exact first h
    | succ k =>
      refine iff_of_false (by simp) ?_
      rintro ⟨-, _ | ⟨p, ps⟩, hps, hr⟩
      · cases hps
      · obtain ⟨v, hm, -⟩ := hr.uncons
        obtain ⟨_, hv⟩ := hm.step
        rw [hs] at hv
        cases hv
  | case3 s h =>
    refine iff_of_false (by simp) ?_
    rintro ⟨hlt, _ | ⟨p, ps⟩, -, hr⟩
    · rw [hr.nil] at hlt
      exact h hlt
    · obtain ⟨v, ⟨hlt', -⟩, -⟩ := hr.uncons
      exact h hlt'

/-- there is no step to take exactly if there is no code left -/
theorem attempts_eq_nil_iff (s : State) : s.attempts = [] ↔ s.code.size ≤ s.pc := by
  constructor
  · intro hnil
    by_contra hlt
    have hfirst := (getElem?_attempts s 0 s).2 ⟨Nat.lt_of_not_le hlt, [], rfl, .start⟩
    rw [hnil] at hfirst
    cases hfirst
  · intro hle
    rw [attempts, dif_neg (Nat.not_lt.2 hle)]

theorem attempts_length (s : State) : s.attempts.length ≤ s.code.size - s.pc := by
  fun_induction attempts s with
  | case1 s h t hs ih =>
    obtain ⟨hcode, hpc⟩ := step_advances hs
    rw [hcode] at ih
    rw [List.length_cons]
    omega
  | case2 s h e t hs =>
    rw [List.length_singleton]
    omega
  | case3 s h => exact Nat.zero_le _

/-- the last step decides: its outcome is the one of the run -/
theorem step_getLast_attempts {s u : State} (hu : s.attempts.getLast? = some u) : ∃ h, u.step h = s.execute := by
  fun_induction attempts s with
  | case1 s h t hs ih =>
    rw [execute_of_ok hs]
    cases hrest : t.attempts with
    | nil =>
      -- nothing is left to do after this step
      rw [hrest, List.getLast?_singleton, Option.some_inj] at hu
      subst hu
      refine ⟨h, ?_⟩
      rw [hs, execute_of_done ((attempts_eq_nil_iff t).1 hrest)]
    | cons v vs =>
      rw [hrest, List.getLast?_cons_cons, ← hrest] at hu
      exact ih hu
  | case2 s h e t hs =>
    rw [List.getLast?_singleton, Option.some_inj] at hu
    subst hu
    exact ⟨h, by rw [execute_of_fault hs, hs]⟩
  | case3 s h => cases hu

/-! ## Places -/

/-- the places of the steps are boundaries of the listing, from the first on and without a gap -/
theorem attempts_boundaries (s : State) : s.attempts.map State.pc <+: (sweep s.code s.pc).boundaries := by
  fun_induction attempts s with
  | case1 s h t hs ih =>
    obtain ⟨p, hm⟩ := moves_of_step hs
    obtain ⟨hcode, hlist⟩ := hm.listed
    obtain ⟨_, hp, -⟩ := hm
    rw [hcode] at ih
    rw [hlist, Listing.boundaries_prepend, List.map_cons, ← (prepare_fetched hp).2.1]
    exact (List.prefix_cons_inj _).2 ih
  | case2 s h e t hs =>
    obtain ⟨rest, hrest⟩ := sweep_boundaries h
    rw [hrest]
    exact List.prefix_append [s.pc] rest
  | case3 s h => exact List.nil_prefix

/-- what is paid for is paid for in the steps, from the first on -/
theorem history_attempts (s : State) : s.history.1.map Paid.offset <+: s.attempts.map State.pc := by
  fun_induction attempts s with
  | case1 s h t hs ih =>
    obtain ⟨p, hm⟩ := moves_of_step hs
    have hhist := history_of_moves hm
    obtain ⟨_, hp, -⟩ := hm
    rw [hhist, List.map_cons, List.map_cons, (prepare_fetched hp).2.1]
    exact (List.prefix_cons_inj _).2 ih
  | case2 s h e t hs =>
    rcases history_of_fault hs with hnil | ⟨p, hp, hone⟩
    · rw [hnil]
      exact List.nil_prefix
    · rw [hone, List.map_singleton, (prepare_fetched hp).2.1]
      exact List.prefix_rfl
  | case3 s h =>
    rw [history, dif_neg h]
    exact List.nil_prefix

/-! ## Runs -/

/-- a run pays for at most a third of its gas limit in instructions -/
theorem history_length (code : Bytes) (gasLimit : UInt64) :
    (start code gasLimit).history.1.length ≤ gasLimit.toNat / 3 := by
  have hends := ends_run code gasLimit
  have hstart := sound_start code gasLimit
  have hbill := hends.itemised hstart rfl
  have hcons := (hends.halted hstart).1.conserved
  have hleast := length_le_constantGasOf (start code gasLimit).history.1
  unfold Itemised at hbill
  omega

/-- **A run follows the listing of its code, and ends.** The steps of a run, which are taken from the states it reaches
with code left, are at most as many as the bytes of its code, and at most a third of its gas limit are paid for. Each
successful one leads further on, and no state is outside the code. The offsets at which opcodes are fetched are the
boundaries of the listing, from the first on and in order, and none of them is that of a byte that belongs to a push. The
run succeeds exactly if it is at the end of its code and its last step was successful, or there was none to take. -/
theorem run_follows_listing (code : Bytes) (gasLimit : UInt64) :
    let steps := (start code gasLimit).attempts
    let paid := (start code gasLimit).history.1
    let final := (run code gasLimit).state
    (∀ k s, steps[k]? = some s ↔
      s.pc < s.code.size ∧ ∃ ps, ps.length = k ∧ Reaches (start code gasLimit) ps s) ∧
    steps.length ≤ code.size ∧
    paid.map Paid.offset <+: steps.map State.pc ∧ paid.length ≤ gasLimit.toNat / 3 ∧
    (∀ ps s, Reaches (start code gasLimit) ps s → s.pc ≤ code.size ∧ ∀ p t, Moves s p t → s.pc < t.pc) ∧
    final.pc ≤ code.size ∧
    steps.map State.pc <+: (sweep code 0).boundaries ∧
    (∀ l ∈ (sweep code 0).lines, ∀ s ∈ steps, s.pc ≤ l.offset ∨ l.next ≤ s.pc) ∧
    ((run code gasLimit).fault? = none ↔ final.pc = code.size ∧
      (code = #[] ∨ ∃ s h, steps.getLast? = some s ∧ s.step h = .ok final)) := by
  intro steps paid final
  have hends := ends_run code gasLimit
  have hbounds : steps.map State.pc <+: (sweep code 0).boundaries := attempts_boundaries _
  refine ⟨getElem?_attempts _, attempts_length _, history_attempts _, history_length code gasLimit, ?_,
    (hends.place (Nat.zero_le _)).2, hbounds, ?_, ?_⟩
  · intro ps s hr
    refine ⟨(hr.place (Nat.zero_le _)).2, fun p t hm => ?_⟩
    obtain ⟨h, hs⟩ := hm.step
    exact (step_advances hs).2
  · intro l hl s hs
    exact ((sweep_apart code 0).2 l hl).2 _ (hbounds.subset (List.mem_map_of_mem hs))
  · constructor
    · intro hok
      cases hrun : run code gasLimit with
      | fault e t => rw [hrun] at hok; cases hok
      | ok t =>
        rw [hrun] at hends
        have hfinal : final = t := by simp only [final, hrun, Outcome.state]
        rw [hfinal]
        refine ⟨(hends.pc_eq (Nat.zero_le _)).2, ?_⟩
        by_cases hcode : code = #[]
        · exact .inl hcode
        · -- there is a byte, so a step to take, so a last one
          cases hlast : steps.getLast? with
          | none =>
            have hle : code.size ≤ 0 := (attempts_eq_nil_iff _).1 (List.getLast?_eq_none_iff.1 hlast)
            exact absurd hle (Nat.not_le.2 (Array.size_pos_iff.2 hcode))
          | some u =>
            obtain ⟨h, hu⟩ := step_getLast_attempts hlast
            exact .inr ⟨u, h, rfl, hu.trans hrun⟩
    · rintro ⟨-, hempty | ⟨u, h, hlast, hu⟩⟩
      · have hdone : run code gasLimit = .ok (start code gasLimit) :=
          execute_of_done (s := start code gasLimit) (by rw [hempty]; exact Nat.zero_le _)
        rw [hdone]
        rfl
      · obtain ⟨h', hu'⟩ := step_getLast_attempts hlast
        have hrun : run code gasLimit = .ok final := hu'.symm.trans hu
        rw [hrun]
        rfl

/-- a push whose bytes could be taken for sums, and the sum of it and another: three steps, none of them inside the
push -/
theorem fetches_of_push_and_sum :
    let code := #[0x61, 0x01, 0x01, 0x60, 0x00, 0x01]
    let steps := (start code 100).attempts
    (∃ ps s p t, Reaches (start code 100) ps s ∧ Moves s p t ∧ s.pc < t.pc) ∧ steps.map State.pc <+: [0, 3, 5] ∧
    (⟨0, .push2⟩ ∈ (sweep code 0).lines ∧ ∀ s ∈ steps, s.pc ≤ 0 ∨ 3 ≤ s.pc) ∧
    (run code 100).fault? = none ∧ ∃ s h, steps.getLast? = some s ∧ s.step h = .ok (run code 100).state := by
  intro code steps
  obtain ⟨-, -, -, -, hplace, -, hbounds, hapart, hiff⟩ := run_follows_listing code 100
  have hsweep : (sweep code 0).boundaries = [0, 3, 5] := by decide +kernel
  have hline : ⟨0, .push2⟩ ∈ (sweep code 0).lines := by decide +kernel
  have hok : (run code 100).fault? = none := by decide +kernel
  have hs : (start code 100).step (by decide) =
      .ok { start code 100 with pc := 3, opcode := 0x61, stack := ⟨[0x101]⟩, gasRemaining := 97, gasUsed := 3 } := by
    decide +kernel
  obtain ⟨p, hm⟩ := moves_of_step hs
  refine ⟨⟨_, _, p, _, .start, hm, (hplace _ _ .start).2 _ _ hm⟩, hsweep ▸ hbounds, ⟨hline, hapart _ hline⟩, hok, ?_⟩
  rcases (hiff.1 hok).2 with hempty | hlast
  · exact absurd hempty (by decide)
  · exact hlast

end GasMachine.State
