import Mathlib.Tactic
import GasMachine.Proofs.FailedStep
import GasMachine.Proofs.Listing
/-
The depth of the stack is a matter of the code alone.

A push adds a word, a binary operation takes one off, a store two, whatever the words are and whatever gas there is. So
the depth before each line of a listing can be counted (`Listing.depth`), and a line fits if the depth it finds has the
words it takes and the room for the word it adds. An instruction acts only where it fits (`perform_depth`), and where it
fits it lacks nothing: it can then only run out of gas or write beyond the bound (`step_fault_of_fits`). The charges look
at the stack too, and ask for less: an exponent for both words, a store for its offset alone.

`stack_depth_is_static` puts this together along the listing of the code: if every line fits and the listing is complete,
runs end in no other way; and no run gets past the first line that does not fit, or the place where the listing breaks
off.
-/
namespace GasMachine

namespace Instruction

namespace Kind

/-- the depths of the stack at which an instruction finds its words, and room for what it adds -/
def Fits (depth : ℤ) : Kind → Prop
  | binary | store => 2 ≤ depth
  | push => depth < 1024

instance (depth : ℤ) (k : Kind) : Decidable (k.Fits depth) :=
  match k with
  | binary => inferInstanceAs (Decidable (2 ≤ depth))
  | store => inferInstanceAs (Decidable (2 ≤ depth))
  | push => inferInstanceAs (Decidable (depth < 1024))

/-- what an instruction does to the depth -/
def change : Kind → ℤ
  | binary => -1
  | store => -2
  | push => 1

end Kind

/-- an instruction acts only where it fits, and changes the depth as its kind says -/
theorem perform_depth {i : Instruction} {s t : State} (hop : s.opcode = i.opcode) (h : i.perform s = .ok t) :
    i.kind.Fits s.stack.size ∧ (t.stack.size : ℤ) = s.stack.size + i.kind.change := by
  rcases i.kind_cases with ⟨hk, -, op, hi⟩ | ⟨hk, -, bytes, hi, hbytes⟩ | ⟨hk, hi, hle, hwidth⟩
  · rw [hi] at h
    rw [hk]
    rcases binary_cases op s with ⟨-, he⟩ | ⟨a, b, rest, hw, he⟩
    · rw [he] at h; cases h
    · rw [he] at h; cases h
      simp only [Kind.Fits, Kind.change, Stack.size, hw, List.length_cons]
      omega
  · rw [hi] at h
    rw [hk]
    rcases store_outcome i.writes_le hbytes s with ⟨-, he⟩ | ⟨offset, value, rest, hw, ⟨-, he⟩ | ⟨-, m, he, -⟩⟩
    · rw [he] at h; cases h
    · rw [he] at h; cases h
    · rw [he] at h; cases h
      simp only [Kind.Fits, Kind.change, Stack.size, hw, List.length_cons]
      omega
  · rw [hi] at h
    rw [hk]
    rcases push_cases s (by rw [hwidth s hop]; exact hle) with ⟨-, he⟩ | ⟨-, -, he⟩ | ⟨-, hroom, he⟩
    · rw [he] at h; cases h
    · rw [he] at h; cases h
    · rw [he] at h; cases h
      rw [Stack.limit] at hroom
      simp only [Kind.Fits, Kind.change, Stack.size, List.length_cons]
      omega

section Fits

variable {i : Instruction} {s : State} {e : Fault}

/-- where an instruction fits, and the code holds the bytes that belong to it, it fails only beyond the bound -/
theorem perform_fault_of_fits {u : State} (hop : s.opcode = i.opcode) (hin : s.pc + i.immediate ≤ s.code.size)
    (hfit : i.kind.Fits s.stack.size) (h : i.perform s = .fault e u) : e = .gasOverflow := by
  rcases i.kind_cases with ⟨hk, -, op, hi⟩ | ⟨hk, -, bytes, hi, hbytes⟩ | ⟨hk, hi, hle, hwidth⟩
  · rw [hi] at h
    rw [hk] at hfit
    simp only [Kind.Fits, Stack.size] at hfit
    rcases binary_cases op s with ⟨hlen, -⟩ | ⟨a, b, rest, -, he⟩
    · omega
    · rw [he] at h; cases h
  · rw [hi] at h
    rw [hk] at hfit
    simp only [Kind.Fits, Stack.size] at hfit
    rcases store_outcome i.writes_le hbytes s with ⟨hlen, -⟩ | ⟨offset, value, rest, -, ⟨-, he⟩ | ⟨-, m, he, -⟩⟩
    · omega
    · rw [he] at h; cases h
      rfl
    · rw [he] at h; cases h
  · rw [hi] at h
    rw [hk] at hfit
    simp only [Kind.Fits, Stack.size] at hfit
    have hcases := push_cases s (by rw [hwidth s hop]; exact hle)
    rw [hwidth s hop, Stack.limit] at hcases
    rcases hcases with ⟨hlt, -⟩ | ⟨-, hfull, -⟩ | ⟨-, -, he⟩
    · omega
    · omega
    · rw [he] at h; cases h

/-- where an instruction fits, its charge can be computed, but for a write beyond the bound -/
theorem dynamicGas_error_of_fits (hfit : i.kind.Fits s.stack.size) (h : i.dynamicGas s = .error e) :
    e = .gasOverflow := by
  rcases dynamicGas_kind i with ⟨rfl, hi⟩ | ⟨hst, -, hi⟩ | ⟨-, -, hi⟩
  · rw [hi] at h
    simp only [kind, Kind.Fits, Stack.size] at hfit
    rcases Gas.exponent_cases s with ⟨hlen, -⟩ | ⟨a, x, rest, gas, -, he, -⟩
    · omega
    · rw [he] at h; cases h
  · rw [hi] at h
    have hk : i.kind = .store := by
      rcases i.writes_ne_zero_iff.1 hst with rfl | rfl <;> rfl
    rw [hk] at hfit
    simp only [Kind.Fits, Stack.size] at hfit
    rcases Gas.memoryExpansion_outcome s with ⟨hnil, -⟩ | ⟨offset, rest, -, ⟨-, he⟩ | ⟨-, size, -, -, he⟩⟩
    · rw [hnil, List.length_nil] at hfit
      omega
    · rw [he] at h; cases h
      rfl
    · rw [he] at h; cases h
  · rw [hi] at h; cases h

end Fits

end Instruction

/-! ## The depth along a listing -/

/-- the depth after `is`, from an empty stack -/
def depthAfter (is : List Instruction) : ℤ :=
  is.countP (fun i => i.kind = .push) - is.countP (fun i => i.kind = .binary) - 2 * is.countP (fun i => i.kind = .store)

theorem depthAfter_snoc (is : List Instruction) (i : Instruction) :
    depthAfter (is ++ [i]) = depthAfter is + i.kind.change := by
  unfold depthAfter
  cases hk : i.kind <;> simp [List.countP_append, hk, Instruction.Kind.change] <;> ring

namespace Listing

/-- the depth after the first `k` lines -/
def depth (l : Listing) (k : ℕ) : ℤ := depthAfter ((l.lines.take k).map Line.instruction)

/-- there is a line `k`, and it fits the depth before it -/
def Fits (l : Listing) (k : ℕ) : Prop := ∃ h : k < l.lines.length, l.lines[k].instruction.kind.Fits (l.depth k)

instance (l : Listing) (k : ℕ) : Decidable (l.Fits k) :=
  inferInstanceAs (Decidable (∃ h : k < l.lines.length, l.lines[k].instruction.kind.Fits (l.depth k)))

/-- the listing takes in the whole code, and every line fits -/
structure Checks (l : Listing) : Prop where
  finished : l.stop = .finished
  fits : ∀ k < l.lines.length, l.Fits k

/-- the first `k` lines fit; the next does not, or it is none because the listing breaks off there -/
structure FailsAt (l : Listing) (k : ℕ) : Prop where
  before : ∀ j < k, l.Fits j
  here : (∃ h : k < l.lines.length, ¬ l.lines[k].instruction.kind.Fits (l.depth k)) ∨
    (k = l.lines.length ∧ l.stop ≠ .finished)

theorem FailsAt.not_fits {l : Listing} {k : ℕ} (h : l.FailsAt k) : ¬ l.Fits k := by
  rintro ⟨hk, hfit⟩
  rcases h.here with ⟨_, hnot⟩ | ⟨rfl, -⟩
  · exact hnot hfit
  · exact lt_irrefl _ hk

/-- the check passes, or there is a first place where it fails -/
theorem checks_or_failsAt (l : Listing) : l.Checks ∨ ∃ k, l.FailsAt k := by
  by_cases hall : ∀ k < l.lines.length, l.Fits k
  · by_cases hstop : l.stop = .finished
    · exact .inl ⟨hstop, hall⟩
    · exact .inr ⟨l.lines.length, hall, .inr ⟨rfl, hstop⟩⟩
  · push Not at hall
    have hfirst := Nat.find_spec hall
    refine .inr ⟨Nat.find hall, fun j hj => ?_, .inl ⟨hfirst.1, fun hfit => hfirst.2 ⟨hfirst.1, hfit⟩⟩⟩
    by_contra hn
    exact Nat.find_min hall hj ⟨hj.trans hfirst.1, hn⟩

theorem depth_prepend (ls : List Line) (l : Listing) :
    (l.prepend ls).depth ls.length = depthAfter (ls.map Line.instruction) := by
  simp [depth, prepend]

/-- whether the line after `ls` fits is a matter of the depth after `ls` -/
theorem fits_prepend (ls : List Line) (line : Line) (l : Listing) :
    ((l.prepend [line]).prepend ls).Fits ls.length ↔
      line.instruction.kind.Fits (depthAfter (ls.map Line.instruction)) := by
  unfold Fits
  rw [depth_prepend]
  simp [prepend]

end Listing

/-! ## Runs -/

namespace State

theorem Moves.depth {s t : State} {p : Paid} (hm : Moves s p t) :
    p.instruction.kind.Fits s.stack.size ∧ (t.stack.size : ℤ) = s.stack.size + p.instruction.kind.change := by
  obtain ⟨h, hp, hf⟩ := hm
  obtain ⟨-, -, hop, hstack⟩ := prepare_fetched hp
  rw [← hstack]
  exact Instruction.perform_depth hop hf

/-- the depth a run reaches is that of the instructions it has performed -/
theorem Reaches.depth {s t : State} {ps : List Paid} (hr : Reaches s ps t) :
    (t.stack.size : ℤ) = s.stack.size + depthAfter ((ps.map Paid.line).map Line.instruction) := by
  induction hr with
  | start => simp [depthAfter]
  | @next ps p t u _ hm ih =>
    rw [hm.depth.2, ih, List.map_append, List.map_append]
    change _ = _ + depthAfter (_ ++ [p.instruction])
    rw [depthAfter_snoc]
    ring

theorem Reaches.size_le {s t : State} {ps : List Paid} (hr : Reaches s ps t) (hs : s.stack.size ≤ 1024) :
    t.stack.size ≤ 1024 := by
  induction hr with
  | start => exact hs
  | @next ps p t u _ hm ih =>
    obtain ⟨hfit, hsize⟩ := hm.depth
    cases hk : p.instruction.kind <;> rw [hk] at hfit hsize <;>
      simp only [Instruction.Kind.Fits, Instruction.Kind.change] at hfit hsize <;> omega

/-- a step on a line that fits only runs out of gas, or writes beyond the bound -/
theorem step_fault_of_fits {s u : State} {h : s.pc < s.code.size} {e : Fault} {i : Instruction}
    (hi : Instruction.ofByte? s.code[s.pc] = some i) (hin : s.pc + 1 + i.immediate ≤ s.code.size)
    (hfit : i.kind.Fits s.stack.size) (hs : s.step h = .fault e u) : e = .outOfGas ∨ e = .gasOverflow := by
  rcases step_fault hs with ⟨hnone, -⟩ | ⟨j, hj, ⟨hd, -⟩ | ⟨d, -, -, he, -⟩ | ⟨d, -, -, hu, hf⟩⟩
  · rw [hi] at hnone; cases hnone
  · rw [hi] at hj; cases hj
    exact .inr (Instruction.dynamicGas_error_of_fits (s := s.fetched _) hfit hd)
  · exact .inl he
  · rw [hi] at hj; cases hj
    right
    refine Instruction.perform_fault_of_fits ?_ ?_ ?_ hf
    · rw [hu]; exact (Instruction.opcode_of_ofByte? hi).symm
    · rw [hu]; exact hin
    · rw [hu]; exact hfit

section Start

variable {code : Bytes} {gasLimit : UInt64} {ps : List Paid} {t : State}

theorem Reaches.depth_start (hr : Reaches (State.start code gasLimit) ps t) :
    (t.stack.size : ℤ) = depthAfter ((ps.map Paid.line).map Line.instruction) := by
  have hempty : (State.start code gasLimit).stack.size = 0 := rfl
  rw [hr.depth, hempty, Nat.cast_zero, zero_add]

/-- the lines performed are the first of the listing, and the depth is the one counted there -/
theorem Reaches.counted (hr : Reaches (State.start code gasLimit) ps t) :
    ps.map Paid.line <+: (sweep code 0).lines ∧ (t.stack.size : ℤ) = (sweep code 0).depth ps.length := by
  have hlist : sweep code 0 = (sweep code t.pc).prepend (ps.map Paid.line) := hr.listed.2
  have hlen : (ps.map Paid.line).length = ps.length := List.length_map _
  rw [hlist, ← hlen, Listing.depth_prepend]
  exact ⟨List.prefix_append _ _, hr.depth_start⟩

/-- every line that a run has performed fits -/
theorem Reaches.fits (hr : Reaches (State.start code gasLimit) ps t) : ∀ j < ps.length, (sweep code 0).Fits j := by
  induction hr with
  | start => exact fun j hj => absurd hj (Nat.not_lt_zero j)
  | @next ps p t u hr hm ih =>
    intro j hj
    rw [List.length_append, List.length_singleton] at hj
    rcases Nat.lt_succ_iff_lt_or_eq.1 hj with hj | rfl
    · exact ih j hj
    · -- the line performed last is the first of the listing from the place before
      obtain ⟨hcode, hlist⟩ := hr.listed
      have hnext := hm.listed.2
      rw [hcode] at hnext
      change sweep code 0 = (sweep code t.pc).prepend _ at hlist
      change sweep code t.pc = _ at hnext
      have hfit := hm.depth.1
      have hlen : (ps.map Paid.line).length = ps.length := List.length_map _
      rw [hlist, hnext, ← hlen, Listing.fits_prepend, ← hr.depth_start]
      exact hfit

/-- in code that checks, a step fails only for want of gas, or beyond the bound -/
theorem Reaches.step_fault_of_checks (hr : Reaches (State.start code gasLimit) ps t) (hc : (sweep code 0).Checks)
    {h : t.pc < t.code.size} {e : Fault} {u : State} (hs : t.step h = .fault e u) :
    e = .outOfGas ∨ e = .gasOverflow := by
  obtain ⟨hcode, hlist⟩ := hr.listed
  change t.code = code at hcode
  change sweep code 0 = (sweep code t.pc).prepend _ at hlist
  have hlen : (ps.map Paid.line).length = ps.length := List.length_map _
  rcases sweep_cases h with ⟨stop, hstop, he⟩ | ⟨i, hi, hin, he⟩
  · -- the listing does not break off at the place reached, since it does not break off at all
    rw [hcode] at he
    rw [hlist, he] at hc
    exact absurd hc.finished hstop
  · rw [hcode] at he
    have hfit : (sweep code 0).Fits ps.length := by
      refine hc.fits _ ?_
      rw [hlist, he]
      simp [Listing.prepend]
    rw [hlist, he, ← hlen, Listing.fits_prepend, ← hr.depth_start] at hfit
    exact step_fault_of_fits hi hin hfit hs

/-- a run that succeeds has performed every line of a listing that does not break off -/
theorem Reaches.listing_of_done (hr : Reaches (State.start code gasLimit) ps t) (hd : t.code.size ≤ t.pc) :
    (sweep code 0).lines.length = ps.length ∧ (sweep code 0).stop = .finished := by
  obtain ⟨hcode, hlist⟩ := hr.listed
  change t.code = code at hcode
  change sweep code 0 = (sweep code t.pc).prepend _ at hlist
  rw [hlist, sweep_of_done (hcode ▸ hd)]
  simp [Listing.prepend]

end Start

/-- **The depth of the stack is a matter of the code alone.** With any gas limit a run performs the lines of the listing
in order, and after `k` of them the stack holds the words counted there, between none and 1024. If the listing takes in
the whole code and every line fits, runs succeed, run out of gas or write beyond the bound, and end in no other way. If
the check fails, there is a first line at which it does, and no run succeeds or performs that line or a later one. -/
theorem stack_depth_is_static (code : Bytes) :
    let listing := sweep code 0
    (∀ gasLimit ps s, Reaches (start code gasLimit) ps s →
      ps.map Paid.line <+: listing.lines ∧ (s.stack.size : ℤ) = listing.depth ps.length ∧
      0 ≤ listing.depth ps.length ∧ listing.depth ps.length ≤ 1024) ∧
    (listing.Checks → ∀ gasLimit, (run code gasLimit).fault? = none ∨
      (run code gasLimit).fault? = some .outOfGas ∨ (run code gasLimit).fault? = some .gasOverflow) ∧
    (∀ k, listing.FailsAt k → ∀ gasLimit, (run code gasLimit).fault? ≠ none ∧
      ∀ ps s, Reaches (start code gasLimit) ps s → ps.length ≤ k) ∧
    (listing.Checks ∨ ∃ k, listing.FailsAt k) := by
  intro listing
  refine ⟨?_, ?_, ?_, listing.checks_or_failsAt⟩
  · intro gasLimit ps s hr
    obtain ⟨hlines, hdepth⟩ := hr.counted
    have hle := hr.size_le (Nat.zero_le _)
    refine ⟨hlines, hdepth, ?_⟩
    change (s.stack.size : ℤ) = listing.depth ps.length at hdepth
    omega
  · intro hc gasLimit
    have hends := ends_run code gasLimit
    cases hrun : run code gasLimit with
    | ok t => exact .inl rfl
    | fault e u =>
      rw [hrun] at hends
      obtain ⟨ps, t, h, hr, hs, -⟩ := hends.faulting_step
      right
      rcases hr.step_fault_of_checks hc hs with rfl | rfl
      · exact .inl rfl
      · exact .inr rfl
  · intro k hk gasLimit
    have hstuck : ∀ ps s, Reaches (start code gasLimit) ps s → ps.length ≤ k := by
      intro ps s hr
      by_contra hlt
      exact hk.not_fits (hr.fits k (by omega))
    refine ⟨?_, hstuck⟩
    intro hok
    have hends := ends_run code gasLimit
    cases hrun : run code gasLimit with
    | ok t =>
      rw [hrun] at hends
      obtain ⟨hcode, hpc⟩ := hends.pc_eq (Nat.zero_le _)
      obtain ⟨hlen, hstop⟩ := hends.reaches.listing_of_done (by rw [hcode, hpc])
      have hle := hstuck _ _ hends.reaches
      rcases hk.here with ⟨hlt, -⟩ | ⟨-, hne⟩
      · exact absurd hlt (by rw [hlen]; omega)
      · exact hne hstop
    | fault e u => rw [hrun] at hok; cases hok

/-- a store checks; a sum of one word fails at its second line, and no run gets past the first -/
theorem depth_of_store_and_sum :
    let store := #[0x60, 0x05, 0x60, 0x00, 0x52]
    let sum := #[0x60, 0x05, 0x01, 0x60, 0x00]
    (sweep store 0).Checks ∧ (∀ g, (run store g).fault? = none ∨
      (run store g).fault? = some .outOfGas ∨ (run store g).fault? = some .gasOverflow) ∧
    (sweep sum 0).FailsAt 1 ∧ (∀ g, (run sum g).fault? ≠ none ∧
      ∀ ps s, Reaches (start sum g) ps s → ps.length ≤ 1) ∧
    ∃ ps s, Reaches (start sum 100) ps s ∧ ps.length = 1 ∧ (s.stack.size : ℤ) = (sweep sum 0).depth 1 := by
  intro store sum
  have hstore : (sweep store 0).Checks := ⟨by decide +kernel, by decide +kernel⟩
  have hsum : (sweep sum 0).FailsAt 1 := ⟨by decide +kernel, .inl (by decide +kernel)⟩
  have hs : (start sum 100).step (by decide) =
      .ok { start sum 100 with pc := 2, opcode := 0x60, stack := ⟨[5]⟩, gasRemaining := 97, gasUsed := 3 } := by
    decide +kernel
  obtain ⟨p, hm⟩ := moves_of_step hs
  have hr := Reaches.start.next hm
  exact ⟨hstore, (stack_depth_is_static store).2.1 hstore, hsum, (stack_depth_is_static sum).2.2.1 1 hsum,
    _, _, hr, rfl, ((stack_depth_is_static sum).1 100 _ _ hr).2.1⟩

end State

end GasMachine
