import Mathlib.Tactic
import GasMachine.Report
import GasMachine.Proofs.CodeAhead
import GasMachine.Proofs.Overlay
/-
Stores that write different bytes can change places.

`storeCode` is a store with both its words: the value pushed, the offset pushed, the store. The two orders of two such
pieces of code do not charge the same at the same moment, since whichever store reaches further first pays for the
memory. But what a store leaves is known from the state before it (`Stored`), and so is whether it goes through
(`Affords`): a run with the store ahead succeeds exactly if it can afford it and the run from the state it leaves
succeeds (`affords_of_execute`, `execute_of_affords`). Over both stores the charges for memory add up to the price of the
words there are in the end, which is the same in either order (`Affords.swap`, `Stored.swap`).

The bytes are compared one by one, zero beyond the end, so that the padding of either store drops out
(`overwrite_grow_swap`).
-/
namespace GasMachine

/-! ## Two writes to the memory -/

namespace Memory

/-- memories of one size are equal if they have the same bytes -/
theorem ext_byte {m n : Memory} (hsize : m.bytes.size = n.bytes.size) (hbyte : ∀ k, m.byte k = n.byte k) : m = n := by
  have harray : m.bytes = n.bytes := by
    apply Array.ext hsize
    intro k hm hn
    have hk := hbyte k
    simp only [byte, Array.getElem?_eq_getElem hm, Array.getElem?_eq_getElem hn, Option.getD_some] at hk
    exact hk
  cases m; cases n
  simpa using harray

section Swap

variable {m : Memory} {a b : ℕ} {bs cs : List UInt8}

/-- a write that pads the memory to what it needs, byte by byte -/
theorem byte_overwrite_grow (m : Memory) (a : ℕ) (bs : List UInt8) (k : ℕ) :
    ((m.grow (32 * wordsFor (a + bs.length))).overwrite a bs).byte k =
      (if a ≤ k then bs[k - a]? else none).getD (m.byte k) := by
  have hfits : a + bs.length ≤ (m.grow (32 * wordsFor (a + bs.length))).bytes.size := by
    rw [grow_size]
    unfold wordsFor; omega
  rw [byte_overwrite _ _ _ hfits, byte_grow]

/-- writes to different bytes can change places, wherever the memory ended before them -/
theorem overwrite_grow_swap (hd : ∀ k, ¬ ((a ≤ k ∧ k < a + bs.length) ∧ (b ≤ k ∧ k < b + cs.length))) :
    (((m.grow (32 * wordsFor (a + bs.length))).overwrite a bs).grow (32 * wordsFor (b + cs.length))).overwrite b cs =
    (((m.grow (32 * wordsFor (b + cs.length))).overwrite b cs).grow (32 * wordsFor (a + bs.length))).overwrite a bs := by
  apply ext_byte
  · simp only [overwrite_size, grow_size]
    omega
  · intro k
    simp only [byte_overwrite_grow]
    -- a byte that one of them writes is not written by the other
    have hread {c : ℕ} {d : List UInt8} (hn : ¬ (c ≤ k ∧ k < c + d.length)) :
        (if c ≤ k then d[k - c]? else none) = none := by
      split_ifs with hle
      · exact List.getElem?_eq_none (by omega)
      · rfl
    by_cases ha : a ≤ k ∧ k < a + bs.length
    · rw [hread (c := b) (d := cs) fun hb => hd k ⟨ha, hb⟩]
      rfl
    · rw [hread ha]
      rfl

end Swap

end Memory

namespace State

/-! ## A store with its words -/

/-- a value pushed, an offset pushed, and a store -/
def storeCode (i : Instruction) (value offset : Word) : Bytes :=
  #[Instruction.push32.opcode] ++ value.toBytes.toArray ++ #[Instruction.push32.opcode] ++ offset.toBytes.toArray ++
    #[i.opcode]

/-- what has to hold for a store with its words to go through: two places on the stack, a range within the bound, and
gas for three instructions and the memory -/
structure Affords (i : Instruction) (offset : Word) (s : State) : Prop where
  room : s.stack.words.length + 2 ≤ Stack.limit
  inRange : offset.toNat + i.writes ≤ Memory.maxSize.toNat
  gas : 9 + Gas.price (s.wordsAfter (offset.toNat + i.writes)) ≤ s.gasRemaining.toNat + Gas.price s.memory.words

/-- what a store with its words does -/
structure Stored (i : Instruction) (value offset : Word) (s t : State) : Prop where
  stack : t.stack = s.stack
  memory : t.memory =
    (s.memory.grow (32 * wordsFor (offset.toNat + i.writes))).overwrite offset.toNat (i.bytesOf value)
  gas : t.gasUsed.toNat + Gas.price s.memory.words =
    s.gasUsed.toNat + 9 + Gas.price (s.wordsAfter (offset.toNat + i.writes))

section Block

variable {limit : UInt64} {s u : State} {i : Instruction} {value offset : Word} {rest : List UInt8}

/-- the state with a value and an offset pushed -/
def withOperands (s : State) (value offset : Word) : State :=
  (s.pushed .push32 value.toBytes).pushed .push32 offset.toBytes

theorem storeCode_ahead (ha : s.ahead = (storeCode i value offset).toList ++ rest) :
    s.ahead = Instruction.push32.opcode :: (value.toBytes ++
      Instruction.push32.opcode :: (offset.toBytes ++ i.opcode :: rest)) := by
  rw [ha]
  simp [storeCode]

theorem execute_operands_iff (hs : Sound limit s) (ha : s.ahead = (storeCode i value offset).toList ++ rest) :
    s.execute = .ok u ↔ 6 ≤ s.gasRemaining.toNat ∧ s.stack.words.length + 2 ≤ Stack.limit ∧
      (s.withOperands value offset).execute = .ok u := by
  have hahead := storeCode_ahead ha
  have hlen : (s.pushed .push32 value.toBytes).stack.words.length = s.stack.words.length + 1 := by
    rw [pushed_words, List.length_cons]
  rw [execute_push_iff (i := .push32) rfl value.toBytes_length hahead,
    execute_push_iff (i := .push32) rfl offset.toBytes_length (ahead_pushed hahead), hlen]
  constructor
  · rintro ⟨hgas, -, hgas', hroom, hu⟩
    have hleft := (hs.pushed (i := .push32) hgas value.toBytes).2.2
    exact ⟨by omega, by omega, hu⟩
  · rintro ⟨hgas, hroom, hu⟩
    have hleft := (hs.pushed (i := .push32) (by omega) value.toBytes).2.2
    exact ⟨by omega, by omega, by omega, by omega, hu⟩

/-- with both words pushed, the store is ahead -/
theorem withOperands_ready (hs : Sound limit s) (ha : s.ahead = (storeCode i value offset).toList ++ rest)
    (hgas : 6 ≤ s.gasRemaining.toNat) :
    Sound limit (s.withOperands value offset) ∧
      (s.withOperands value offset).ahead = i.opcode :: rest ∧
      (s.withOperands value offset).stack.words = offset :: value :: s.stack.words ∧
      (s.withOperands value offset).gasUsed.toNat = s.gasUsed.toNat + 6 ∧
      (s.withOperands value offset).gasRemaining.toNat + 6 = s.gasRemaining.toNat := by
  have hahead := storeCode_ahead ha
  obtain ⟨hs₁, hused₁, hleft₁⟩ := hs.pushed (i := .push32) (by omega) value.toBytes
  obtain ⟨hs₂, hused₂, hleft₂⟩ := hs₁.pushed (i := .push32) (by omega) offset.toBytes
  refine ⟨hs₂, ahead_pushed (ahead_pushed hahead), ?_, ?_, ?_⟩
  · rw [withOperands, pushed_words, pushed_words]
  · rw [withOperands]; omega
  · rw [withOperands]; omega

/-- a run with a store ahead that succeeds can afford it -/
theorem affords_of_execute (hs : Sound limit s) (hi : i.writes ≠ 0)
    (ha : s.ahead = (storeCode i value offset).toList ++ rest) (hu : s.execute = .ok u) : Affords i offset s := by
  obtain ⟨hgas, hroom, hrest⟩ := (execute_operands_iff hs ha).1 hu
  obtain ⟨hready, hahead, hwords, hused, hleft⟩ := withOperands_ready hs ha hgas
  obtain ⟨h, -, -⟩ := ahead_cons hahead
  obtain ⟨t, ht, -⟩ := step_of_execute h hrest
  obtain ⟨hsound, -, -, -, hle, hbill⟩ := step_store hready hi hahead hwords ht
  have hcons := hsound.conserved
  have hcons' := hs.conserved
  have hmem : (s.withOperands value offset).memory = s.memory := rfl
  unfold wordsAfter at hbill
  rw [hmem] at hbill
  refine ⟨hroom, hle, ?_⟩
  unfold wordsAfter
  omega

/-- and a run with a store ahead that it can afford goes on from the state that the store leaves -/
theorem execute_of_affords (hs : Sound limit s) (hi : i.writes ≠ 0)
    (ha : s.ahead = (storeCode i value offset).toList ++ rest) (hf : Affords i offset s) :
    ∃ t, Stored i value offset s t ∧ Sound limit t ∧ t.ahead = rest ∧ ∀ u, s.execute = .ok u ↔ t.execute = .ok u := by
  have hgas := hf.gas
  have hprice : Gas.price s.memory.words ≤ Gas.price (s.wordsAfter (offset.toNat + i.writes)) :=
    Gas.price_mono (le_max_left _ _)
  obtain ⟨hready, hahead, hwords, hused, hleft⟩ := withOperands_ready hs ha (by omega)
  obtain ⟨h, -, -⟩ := ahead_cons hahead
  have hmem : (s.withOperands value offset).memory = s.memory := rfl
  have hafter : (s.withOperands value offset).wordsAfter (offset.toNat + i.writes) =
      s.wordsAfter (offset.toNat + i.writes) := rfl
  obtain ⟨t, ht⟩ := step_store_ok hready hi hahead hwords hf.inRange (by rw [hafter, hmem]; omega) h
  obtain ⟨hsound, hrest, hstack, hmemory, -, hbill⟩ := step_store hready hi hahead hwords ht
  rw [hafter, hmem] at hbill
  rw [hmem] at hmemory
  refine ⟨t, ⟨hstack, hmemory, by omega⟩, hsound, hrest, ?_⟩
  intro u
  rw [execute_operands_iff hs ha, execute_of_ok ht]
  exact ⟨fun hu => hu.2.2, fun hu => ⟨by omega, hf.room, hu⟩⟩

end Block

/-! ## Two stores -/

section Swap

variable {limit : UInt64} {s t u t' u' : State} {i₁ i₂ : Instruction} {v₁ o₁ v₂ o₂ : Word}

theorem Stored.words (h : Stored i₁ v₁ o₁ s t) (hs : Sound limit s)
    (hle : o₁.toNat + i₁.writes ≤ Memory.maxSize.toNat) : t.memory.words = s.wordsAfter (o₁.toNat + i₁.writes) := by
  rw [h.memory]
  exact (Memory.overwrite_grow_whole hs.whole hle).2

/-- what two stores take in all: the price of the words there are after both, above those there were -/
theorem Stored.gas_both (hs : Sound limit s) (hle : o₁.toNat + i₁.writes ≤ Memory.maxSize.toNat)
    (h₁ : Stored i₁ v₁ o₁ s t) (h₂ : Stored i₂ v₂ o₂ t u) :
    u.gasUsed.toNat + Gas.price s.memory.words = s.gasUsed.toNat + 18 +
      Gas.price (max s.memory.words (max (wordsFor (o₁.toNat + i₁.writes)) (wordsFor (o₂.toNat + i₂.writes)))) := by
  have hgas₁ := h₁.gas
  have hgas₂ := h₂.gas
  have hwords := h₁.words hs hle
  rw [wordsAfter, hwords] at hgas₂
  unfold wordsAfter at hgas₁ hgas₂
  rw [max_assoc] at hgas₂
  omega

/-- a run that has two stores ahead and nothing else, if it can afford both of them -/
theorem execute_stores (hs : Sound limit s) (hi₁ : i₁.writes ≠ 0) (hi₂ : i₂.writes ≠ 0)
    (ha : s.ahead = (storeCode i₁ v₁ o₁ ++ storeCode i₂ v₂ o₂).toList) (h₁ : Affords i₁ o₁ s)
    (h₂ : ∀ t, Sound limit t → Stored i₁ v₁ o₁ s t → Affords i₂ o₂ t) :
    ∃ t u, Sound limit t ∧ Stored i₁ v₁ o₁ s t ∧ Sound limit u ∧ Stored i₂ v₂ o₂ t u ∧ s.execute = .ok u := by
  rw [Array.toList_append] at ha
  obtain ⟨t, hst, ht, hat, hgo⟩ := execute_of_affords hs hi₁ ha h₁
  rw [← List.append_nil (storeCode i₂ v₂ o₂).toList] at hat
  obtain ⟨u, hsu, hu, hau, hgo'⟩ := execute_of_affords ht hi₂ hat (h₂ t ht hst)
  exact ⟨t, u, ht, hst, hu, hsu, (hgo u).2 ((hgo' u).2 (ahead_nil hau))⟩

/-- and it can afford both of them if it succeeds -/
theorem affords_stores (hs : Sound limit s) (hi₁ : i₁.writes ≠ 0) (hi₂ : i₂.writes ≠ 0)
    (ha : s.ahead = (storeCode i₁ v₁ o₁ ++ storeCode i₂ v₂ o₂).toList) (hu : s.execute = .ok u) :
    Affords i₁ o₁ s ∧ ∃ t, Sound limit t ∧ Stored i₁ v₁ o₁ s t ∧ Affords i₂ o₂ t ∧ Sound limit u ∧
      Stored i₂ v₂ o₂ t u := by
  rw [Array.toList_append] at ha
  have h₁ := affords_of_execute hs hi₁ ha hu
  obtain ⟨t, hst, ht, hat, hgo⟩ := execute_of_affords hs hi₁ ha h₁
  rw [← List.append_nil (storeCode i₂ v₂ o₂).toList] at hat
  have h₂ := affords_of_execute ht hi₂ hat ((hgo u).1 hu)
  obtain ⟨u', hsu, hu', hau, hgo'⟩ := execute_of_affords ht hi₂ hat h₂
  -- nothing is ahead any more, so the state it leaves is the one in which the run ends
  have hend : u' = u := by
    have hrun := (hgo' u).1 ((hgo u).1 hu)
    rw [ahead_nil hau] at hrun
    exact Outcome.ok.inj hrun
  subst hend
  exact ⟨h₁, t, ht, hst, h₂, hu', hsu⟩

/-- two stores that are afforded in one order are so in the other -/
theorem Affords.swap (hs : Sound limit s) (ht : Sound limit t) (h₁ : Affords i₁ o₁ s)
    (hst : Stored i₁ v₁ o₁ s t) (h₂ : Affords i₂ o₂ t) :
    Affords i₂ o₂ s ∧ ∀ v t', Sound limit t' → Stored i₂ v o₂ s t' → Affords i₁ o₁ t' := by
  have hwords := hst.words hs h₁.inRange
  have hgas := hst.gas
  have hgas₂ := h₂.gas
  have hcons := hs.conserved
  have hcons₂ := ht.conserved
  rw [wordsAfter, hwords] at hgas₂
  unfold wordsAfter at hgas hgas₂
  rw [max_assoc] at hgas₂
  -- the words after both are at least those after either
  have hle : Gas.price (max s.memory.words (wordsFor (o₂.toNat + i₂.writes))) ≤
      Gas.price (max s.memory.words (max (wordsFor (o₁.toNat + i₁.writes)) (wordsFor (o₂.toNat + i₂.writes)))) :=
    Gas.price_mono (by omega)
  refine ⟨⟨?_, h₂.inRange, ?_⟩, ?_⟩
  · have hroom := h₂.room
    rw [hst.stack] at hroom
    exact hroom
  · unfold wordsAfter
    omega
  · intro v t' ht' hst'
    have hwords' := hst'.words hs h₂.inRange
    have hgas' := hst'.gas
    have hcons' := ht'.conserved
    refine ⟨?_, h₁.inRange, ?_⟩
    · rw [hst'.stack]
      exact h₁.room
    · rw [wordsAfter, hwords']
      unfold wordsAfter at hgas' ⊢
      rw [max_assoc, max_comm (wordsFor (o₂.toNat + i₂.writes))]
      omega

/-- two stores to different bytes leave the same in either order -/
theorem Stored.swap (hs : Sound limit s) (hle₁ : o₁.toNat + i₁.writes ≤ Memory.maxSize.toNat)
    (hle₂ : o₂.toNat + i₂.writes ≤ Memory.maxSize.toNat)
    (hd : ∀ k, ¬ ((o₁.toNat ≤ k ∧ k < o₁.toNat + i₁.writes) ∧ (o₂.toNat ≤ k ∧ k < o₂.toNat + i₂.writes)))
    (h₁ : Stored i₁ v₁ o₁ s t) (h₂ : Stored i₂ v₂ o₂ t u) (h₂' : Stored i₂ v₂ o₂ s t') (h₁' : Stored i₁ v₁ o₁ t' u') :
    u'.stack = u.stack ∧ u'.memory = u.memory ∧ u'.gasUsed = u.gasUsed := by
  refine ⟨?_, ?_, ?_⟩
  · rw [h₁'.stack, h₂'.stack, h₂.stack, h₁.stack]
  · rw [h₁'.memory, h₂'.memory, h₂.memory, h₁.memory]
    rw [← i₁.bytesOf_length v₁, ← i₂.bytesOf_length v₂] at hd ⊢
    exact (Memory.overwrite_grow_swap hd).symm
  · have hgas := Stored.gas_both hs hle₁ h₁ h₂
    have hgas' := Stored.gas_both hs hle₂ h₂' h₁'
    rw [max_comm (wordsFor (o₂.toNat + i₂.writes))] at hgas'
    rw [← UInt64.toNat_inj]
    omega

end Swap

/-! ## Runs -/

section Runs

variable {s t : State} {i : Instruction} {value offset : Word} (before after : Bytes)

/-- neither a store nor its charge looks at the code around it -/
theorem affords_placed : Affords i offset (s.placed before after) ↔ Affords i offset s :=
  ⟨fun h => ⟨h.room, h.inRange, h.gas⟩, fun h => ⟨h.room, h.inRange, h.gas⟩⟩

theorem stored_placed : Stored i value offset (s.placed before after) t ↔ Stored i value offset s t :=
  ⟨fun h => ⟨h.stack, h.memory, h.gas⟩, fun h => ⟨h.stack, h.memory, h.gas⟩⟩

end Runs

/-- **Independent stores commute, bill included.** Let the run of `c` succeed, and take two stores with their words that
write no byte both. If the run of `c` and the first and then the second succeeds, so does the run of `c` and the second
and then the first, with the same gas, and it leaves the same stack, memory, gas used, gas left and memory paid, and
reports the same digest. -/
theorem independent_stores_commute (c : Bytes) (g : UInt64) (i₁ i₂ : Instruction) (v₁ o₁ v₂ o₂ : Word)
    (hi₁ : i₁ = .mstore ∨ i₁ = .mstore8) (hi₂ : i₂ = .mstore ∨ i₂ = .mstore8)
    (hd : ∀ k, ¬ ((o₁.toNat ≤ k ∧ k < o₁.toNat + i₁.writes) ∧ (o₂.toNat ≤ k ∧ k < o₂.toNat + i₂.writes)))
    (s : State) (hc : run c g = .ok s)
    (t : State) (ht : run (c ++ storeCode i₁ v₁ o₁ ++ storeCode i₂ v₂ o₂) g = .ok t) :
    ∃ u, run (c ++ storeCode i₂ v₂ o₂ ++ storeCode i₁ v₁ o₁) g = .ok u ∧
      u.stack = t.stack ∧ u.memory.bytes = t.memory.bytes ∧ u.gasUsed = t.gasUsed ∧
      u.gasRemaining = t.gasRemaining ∧ u.memoryPaid = t.memoryPaid ∧
      (report (c ++ storeCode i₂ v₂ o₂ ++ storeCode i₁ v₁ o₁) g).memoryHash =
        (report (c ++ storeCode i₁ v₁ o₁ ++ storeCode i₂ v₂ o₂) g).memoryHash := by
  rw [← Instruction.writes_ne_zero_iff] at hi₁ hi₂
  simp only [Array.append_assoc] at ht ⊢
  obtain ⟨hs, hrun, hahead, hplaced⟩ := run_append_ahead hc (storeCode i₁ v₁ o₁ ++ storeCode i₂ v₂ o₂)
  obtain ⟨-, hrun', hahead', hplaced'⟩ := run_append_ahead hc (storeCode i₂ v₂ o₂ ++ storeCode i₁ v₁ o₁)
  rw [hrun] at ht
  obtain ⟨h₁, t₁, ht₁, hst₁, h₂, hsound, hst₂⟩ := affords_stores hplaced hi₁ hi₂ hahead ht
  rw [affords_placed] at h₁
  rw [stored_placed] at hst₁
  obtain ⟨h₂', h₁'⟩ := Affords.swap hs ht₁ h₁ hst₁ h₂
  obtain ⟨t₂, u, -, hst₂', hsound', hst₁', hu⟩ := execute_stores hplaced' hi₂ hi₁ hahead' ((affords_placed _ _).2 h₂')
    fun t' ht' hst' => h₁' v₂ t' ht' ((stored_placed _ _).1 hst')
  rw [stored_placed] at hst₂'
  obtain ⟨hstack, hmemory, hused⟩ := Stored.swap hs h₁.inRange h₂.inRange hd hst₁ hst₂ hst₂' hst₁'
  have hleft : u.gasRemaining = t.gasRemaining := by
    have hcons := hsound.conserved
    have hcons' := hsound'.conserved
    rw [hused] at hcons'
    rw [← UInt64.toNat_inj]
    omega
  have hpaid : u.memoryPaid = t.memoryPaid := by
    rw [← UInt64.toNat_inj, hsound.paid, hsound'.paid, hmemory]
  rw [hu] at hrun'
  rw [ht] at hrun
  refine ⟨u, hrun', hstack, by rw [hmemory], hused, hleft, hpaid, ?_⟩
  simp only [report, hrun, hrun', Report.ofOutcome, Report.ofState, Outcome.state, hmemory]

/-- a word across the first word boundary and a byte two words further on, above a word that stays on the stack: the
orders pay for the memory in different steps, and end alike -/
theorem scattered_stores_commute :
    let c := #[0x60, 0x05]
    let word := storeCode .mstore 0x0102 31
    let byte := storeCode .mstore8 0xff 100
    ∃ t u, run (c ++ word ++ byte) 33 = .ok t ∧ run (c ++ byte ++ word) 33 = .ok u ∧
      u.memory.bytes = t.memory.bytes ∧ u.gasRemaining = t.gasRemaining := by
  intro c word byte
  have hc : run c 33 = .ok (run c 33).state := Outcome.eq_ok (by decide +kernel)
  have ht : run (c ++ word ++ byte) 33 = .ok (run (c ++ word ++ byte) 33).state := Outcome.eq_ok (by decide +kernel)
  have hd : ∀ k, ¬ (((31 : Word).toNat ≤ k ∧ k < (31 : Word).toNat + Instruction.mstore.writes) ∧
      ((100 : Word).toNat ≤ k ∧ k < (100 : Word).toNat + Instruction.mstore8.writes)) := by
    have h31 : (31 : Word).toNat + Instruction.mstore.writes = 63 := rfl
    have h100 : (100 : Word).toNat = 100 := rfl
    intro k
    omega
  obtain ⟨u, hu, -, hmemory, -, hleft, -⟩ :=
    independent_stores_commute c 33 .mstore .mstore8 0x0102 31 0xff 100 (.inl rfl) (.inr rfl) hd _ hc _ ht
  exact ⟨_, u, ht, hu, hmemory, hleft⟩

end State

end GasMachine
