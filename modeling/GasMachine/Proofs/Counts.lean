import Mathlib.Tactic
import GasMachine.Machine.Gas
/-
The 64-bit counts of the machine, read as naturals.

Below the memory bound nothing wraps: `memoryCost_toNat` gives the cost of a memory as 3 w + w^2 / 512 over the
naturals, and `sizeNeeded_ok` and `sizeNeeded_error` say which writes are let through, and with which size. A write that
ends at `n` needs `wordsFor n` words; it is let through if and only if `n` is at most `maxSize`, because the bound is a
whole number of words.
-/
namespace GasMachine

/-- the words that `n` bytes take -/
def wordsFor (n : ℕ) : ℕ := (n + 31) / 32

theorem wordsFor_zero : wordsFor 0 = 0 := rfl

theorem wordsFor_whole {n : ℕ} (h : n % 32 = 0) : 32 * wordsFor n = n := by
  unfold wordsFor; omega

/-- a whole memory reaches up to `n` exactly if it has the words for it -/
theorem wordsFor_le_iff {n size : ℕ} (h : size % 32 = 0) : 32 * wordsFor n ≤ size ↔ n ≤ size := by
  unfold wordsFor; omega

namespace Gas

/-- the whole cost of `w` words of memory, as a natural -/
def price (w : ℕ) : ℕ := 3 * w + w * w / 512

theorem price_mono {v w : ℕ} (h : v ≤ w) : price v ≤ price w := by
  have hsq : v * v / 512 ≤ w * w / 512 := Nat.div_le_div_right (Nat.mul_le_mul h h)
  unfold price; omega

theorem price_strictMono {v w : ℕ} (h : v < w) : price v < price w := by
  have hsq : v * v / 512 ≤ w * w / 512 := Nat.div_le_div_right (Nat.mul_le_mul h.le h.le)
  unfold price; omega

theorem price_lt {w : ℕ} (h : w < 2 ^ 32) : price w < 2 ^ 56 := by
  have hsq : w * w ≤ (2 ^ 32 - 1) * (2 ^ 32 - 1) := Nat.mul_le_mul (by omega) (by omega)
  unfold price; omega

theorem toNat_square {w : UInt64} (h : w.toNat < 2 ^ 32) : (w * w).toNat = w.toNat * w.toNat := by
  have hsq : w.toNat * w.toNat ≤ (2 ^ 32 - 1) * (2 ^ 32 - 1) := Nat.mul_le_mul (by omega) (by omega)
  rw [UInt64.toNat_mul]; exact Nat.mod_eq_of_lt (by omega)

theorem toNat_triple {w : UInt64} (h : w.toNat < 2 ^ 32) : (3 * w).toNat = 3 * w.toNat := by
  rw [UInt64.toNat_mul]; exact Nat.mod_eq_of_lt (by simp; omega)

/-- the cost of a memory does not wrap, up to the bound -/
theorem memoryCost_toNat (w : UInt64) (h : w.toNat < 2 ^ 32) : (memoryCost w).toNat = price w.toNat := by
  have hdiv : (w * w / 512).toNat = w.toNat * w.toNat / 512 := by
    rw [UInt64.toNat_div, toNat_square h]; rfl
  have hlt := price_lt h
  unfold price at hlt
  unfold memoryCost price
  rw [UInt64.toNat_add, toNat_triple h, hdiv]
  exact Nat.mod_eq_of_lt (by omega)

end Gas

namespace Checked

theorem add_eq_none {a b : UInt64} : add a b = none ↔ 2 ^ 64 ≤ a.toNat + b.toNat := by
  have hsize : UInt64.size = 2 ^ 64 := rfl
  unfold add; split_ifs with h <;> simp <;> omega

theorem toNat_add_of_lt {a b : UInt64} (h : a.toNat + b.toNat < 2 ^ 64) : (a + b).toNat = a.toNat + b.toNat := by
  rw [UInt64.toNat_add]; exact Nat.mod_eq_of_lt h

theorem add_eq_some {a b : UInt64} (h : a.toNat + b.toNat < 2 ^ 64) : add a b = some (a + b) := by
  unfold add; exact if_pos h

/-- the difference is the truncated one of the naturals -/
theorem toNat_sub (a b : UInt64) : (sub a b).toNat = a.toNat - b.toNat := by
  unfold sub
  split_ifs with h
  · have := UInt64.lt_iff_toNat_lt.1 h
    simp; omega
  · exact UInt64.toNat_sub_of_le _ _ (UInt64.not_lt.1 h)

theorem ceil32_eq {n : UInt64} (h : n.toNat ≤ Memory.maxSize.toNat) :
    ∃ m, ceil32 n = some m ∧ m.toNat = 32 * wordsFor n.toNat := by
  have hmax : Memory.maxSize.toNat = 0x1FFFFFFFE0 := rfl
  have hmod : (n % 32).toNat = n.toNat % 32 := UInt64.toNat_mod n 32
  unfold ceil32
  split_ifs with hz
  · have hn : n.toNat % 32 = 0 := by rw [← hmod, hz]; rfl
    exact ⟨n, rfl, (wordsFor_whole hn).symm⟩
  · have hn : n.toNat % 32 ≠ 0 := fun h0 => hz (UInt64.toNat_inj.1 (hmod.trans h0))
    have hgap : (32 - n % 32).toNat = 32 - n.toNat % 32 := by
      rw [UInt64.toNat_sub_of_le _ _ (UInt64.le_iff_toNat_le.2 (by rw [hmod]; simp; omega)), hmod]; rfl
    have hsum : n.toNat + (32 - n % 32).toNat < 2 ^ 64 := by omega
    refine ⟨_, add_eq_some hsum, ?_⟩
    rw [toNat_add_of_lt hsum, hgap]
    unfold wordsFor; omega

theorem le_of_ceil32 {n m : UInt64} (h : ceil32 n = some m) : n.toNat ≤ m.toNat := by
  unfold ceil32 at h
  split_ifs at h
  · cases h; exact le_rfl
  · unfold add at h
    split_ifs at h with hsum
    cases h
    rw [toNat_add_of_lt hsum]; omega

end Checked

namespace Word

theorem toCount?_eq_some {w : Word} (h : w.toNat < 2 ^ 64) : ∃ n : UInt64, w.toCount? = some n ∧ n.toNat = w.toNat := by
  refine ⟨w.toNat.toUInt64, if_pos h, ?_⟩
  simpa using h

theorem toCount?_eq_none {w : Word} (h : 2 ^ 64 ≤ w.toNat) : w.toCount? = none := if_neg (Nat.not_lt.2 h)

end Word

namespace Memory

theorem maxSize_toNat : maxSize.toNat = 0x1FFFFFFFE0 := rfl

/-- a size up to the bound is let through, rounded up to whole words -/
theorem sizeFor_ok {last : UInt64} (h : last.toNat ≤ maxSize.toNat) :
    ∃ size, sizeFor last = .ok size ∧ size.toNat = 32 * wordsFor last.toNat := by
  obtain ⟨size, hc, hsize⟩ := Checked.ceil32_eq h
  have hle : size ≤ maxSize := by
    rw [UInt64.le_iff_toNat_le, hsize]
    exact (wordsFor_le_iff (by decide)).2 h
  refine ⟨size, ?_, hsize⟩
  simp [sizeFor, hc, hle]

/-- a size above the bound is refused -/
theorem sizeFor_error {last : UInt64} (h : maxSize.toNat < last.toNat) : sizeFor last = .error .gasOverflow := by
  unfold sizeFor
  split
  · rename_i size hc
    have := Checked.le_of_ceil32 hc
    rw [if_neg]
    rw [UInt64.le_iff_toNat_le]; omega
  · rfl

end Memory

namespace Gas

/-- a write that ends within the bound is let through, with the size of the words it needs -/
theorem sizeNeeded_ok {offset : Word} {size : UInt64} (h : offset.toNat + size.toNat ≤ Memory.maxSize.toNat) :
    ∃ n, sizeNeeded offset size = .ok n ∧ n.toNat = 32 * wordsFor (offset.toNat + size.toNat) := by
  have hmax := Memory.maxSize_toNat
  obtain ⟨o, ho, hon⟩ := Word.toCount?_eq_some (w := offset) (by omega)
  have hsum : o.toNat + size.toNat < 2 ^ 64 := by omega
  have hlast : (o + size).toNat = offset.toNat + size.toNat := by rw [Checked.toNat_add_of_lt hsum, hon]
  obtain ⟨n, hn, hnn⟩ := Memory.sizeFor_ok (hlast.trans_le h)
  refine ⟨n, ?_, by rw [hnn, hlast]⟩
  simp [sizeNeeded, ho, Checked.add_eq_some hsum, hn]

/-- a write that ends beyond the bound is refused, by whichever of the three checks sees it first -/
theorem sizeNeeded_error {offset : Word} {size : UInt64} (h : Memory.maxSize.toNat < offset.toNat + size.toNat) :
    sizeNeeded offset size = .error .gasOverflow := by
  by_cases hw : offset.toNat < 2 ^ 64
  · obtain ⟨o, ho, hon⟩ := Word.toCount?_eq_some hw
    by_cases hsum : o.toNat + size.toNat < 2 ^ 64
    · have hlast : Memory.maxSize.toNat < (o + size).toNat := by
        rw [Checked.toNat_add_of_lt hsum, hon]; exact h
      simp [sizeNeeded, ho, Checked.add_eq_some hsum, Memory.sizeFor_error hlast]
    · have hnone : Checked.add o size = none := Checked.add_eq_none.2 (by omega)
      simp [sizeNeeded, ho, hnone]
  · simp [sizeNeeded, Word.toCount?_eq_none (by omega : 2 ^ 64 ≤ offset.toNat)]

/-- a size that is let through is that of a write within the bound -/
theorem sizeNeeded_eq_ok {offset : Word} {size n : UInt64} (h : sizeNeeded offset size = .ok n) :
    offset.toNat + size.toNat ≤ Memory.maxSize.toNat ∧ n.toNat = 32 * wordsFor (offset.toNat + size.toNat) := by
  rcases Nat.lt_or_ge Memory.maxSize.toNat (offset.toNat + size.toNat) with hlt | hle
  · rw [sizeNeeded_error hlt] at h
    cases h
  · obtain ⟨m, hm, hsize⟩ := sizeNeeded_ok hle
    rw [hm] at h
    cases h
    exact ⟨hle, hsize⟩

end Gas

end GasMachine
