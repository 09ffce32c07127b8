import Mathlib.Tactic
import GasMachine.Proofs.Words
/-
The signed quotient of two words is the quotient of their two's complement readings, rounded towards zero.

A quotient rounded towards zero is known by what it leaves (`tdiv_eq_iff`): a remainder smaller than the divisor that is
zero or has the sign of the dividend. A floor would leave one with the sign of the divisor. The quotient of two readings
is a reading again, so that nothing is lost when it is put back into a word, but for one pair: the least reading over -1
has no word of its own, and wraps to itself.
-/
namespace GasMachine.Word

variable {x y q r : ℤ}

/-- the remainder of a dividend that is not negative -/
theorem tdiv_eq_iff_of_nonneg (hx : 0 ≤ x) (hy : y ≠ 0) (hr : r = x - y * q) :
    x.tdiv y = q ↔ |r| < |y| ∧ (r = 0 ∨ r.sign = x.sign) := by
  have hsum : r + y * q = x := by rw [hr]; ring
  have hunique := Int.tdiv_tmod_unique (r := r) (q := q) hx hy
  constructor
  · intro hq
    have hmod : x.tmod y = r := by
      have := Int.tmod_add_mul_tdiv x y
      rw [hq] at this
      omega
    obtain ⟨-, hnonneg, hlt⟩ := hunique.1 ⟨hq, hmod⟩
    refine ⟨by rw [abs_of_nonneg hnonneg, Int.abs_eq_natAbs]; exact hlt, ?_⟩
    rcases hnonneg.eq_or_lt with hzero | hpos
    · exact .inl hzero.symm
    · -- a zero dividend leaves nothing
      have hxpos : 0 < x := by
        refine hx.lt_of_ne ?_
        rintro rfl
        rw [Int.zero_tmod] at hmod
        omega
      exact .inr (by rw [Int.sign_eq_one_of_pos hpos, Int.sign_eq_one_of_pos hxpos])
  · rintro ⟨hlt, hsign⟩
    have hnonneg : 0 ≤ r := by
      rcases hsign with rfl | hsign
      · exact le_rfl
      · rw [← Int.sign_nonneg_iff, hsign, Int.sign_nonneg_iff]
        exact hx
    rw [abs_of_nonneg hnonneg, Int.abs_eq_natAbs] at hlt
    exact (hunique.2 ⟨hsum, hnonneg, hlt⟩).1

/-- **A quotient rounded towards zero** is the one that leaves a remainder smaller than the divisor, zero or of the sign
of the dividend. -/
theorem tdiv_eq_iff (hy : y ≠ 0) (hr : r = x - y * q) :
    x.tdiv y = q ↔ |r| < |y| ∧ (r = 0 ∨ r.sign = x.sign) := by
  rcases le_total 0 x with hx | hx
  · exact tdiv_eq_iff_of_nonneg hx hy hr
  · -- a negative dividend with its quotient and remainder is the negation of one that is not
    have hneg := tdiv_eq_iff_of_nonneg (x := -x) (y := y) (q := -q) (r := -r) (by omega) hy (by rw [hr]; ring)
    simpa [Int.neg_tdiv] using hneg

theorem toInt_ne_zero {b : Word} (hb : b ≠ 0) : b.toInt ≠ 0 := by
  intro hzero
  refine hb (BitVec.toInt_inj.1 ?_)
  simpa using hzero

/-- the quotient of two readings is a reading, but for the least one over -1 -/
theorem toInt_sdiv_of_ne {a b : Word} (hb : b ≠ 0) (hfits : ¬(a.toNat = 2 ^ 255 ∧ b.toNat = 2 ^ 256 - 1)) :
    (sdiv a b).toInt = a.toInt.tdiv b.toInt := by
  rw [sdiv, if_neg hb]
  refine BitVec.toInt_sdiv_of_ne_or_ne a b ?_
  by_contra hboth
  obtain ⟨rfl, rfl⟩ : a = BitVec.intMin 256 ∧ b = -1#256 := by simpa [not_or] using hboth
  exact hfits ⟨by decide, by decide⟩

/-- **The signed quotient.** Words read in two's complement: up to 2^255 - 1 as they are, and from 2^255 on less 2^256.
A quotient by zero is zero. By any other word it is the word congruent to the quotient of the readings, rounded towards
zero, and reads as that quotient, except for 2^255 by 2^256 - 1, where it is 2^255. Said by the remainder: no other
number leaves less than the divisor, with nothing left or the sign of the dividend. -/
theorem sdiv_rounds_towards_zero (a b : Word) :
    (∀ w : Word, w.toInt = if w.toNat < 2 ^ 255 then (w.toNat : ℤ) else w.toNat - 2 ^ 256) ∧
    sdiv a 0 = 0 ∧
    (b ≠ 0 → ((sdiv a b).toNat : ℤ) ≡ a.toInt.tdiv b.toInt [ZMOD 2 ^ 256]) ∧
    (a.toNat = 2 ^ 255 → b.toNat = 2 ^ 256 - 1 → (sdiv a b).toNat = 2 ^ 255) ∧
    (b ≠ 0 → ¬(a.toNat = 2 ^ 255 ∧ b.toNat = 2 ^ 256 - 1) →
      (sdiv a b).toInt = a.toInt.tdiv b.toInt ∧
      ∀ q r : ℤ, r = a.toInt - b.toInt * q →
        ((sdiv a b).toInt = q ↔ |r| < |b.toInt| ∧ (r = 0 ∨ r.sign = a.toInt.sign))) := by
  refine ⟨toInt_eq, if_pos rfl, ?_, ?_, ?_⟩
  · intro _
    rw [toNat_sdiv, Int.toNat_of_nonneg (Int.emod_nonneg _ (by decide))]
    exact Int.mod_modEq _ _
  · intro ha hb
    obtain rfl : a = BitVec.intMin 256 := BitVec.eq_of_toNat_eq (ha.trans (by decide))
    obtain rfl : b = -1#256 := BitVec.eq_of_toNat_eq (hb.trans (by decide))
    decide
  · intro hb hfits
    have hquot := toInt_sdiv_of_ne hb hfits
    refine ⟨hquot, fun q r hr => ?_⟩
    rw [hquot]
    exact tdiv_eq_iff (toInt_ne_zero hb) hr

/-- -10 by 3 is -3 and leaves -1, where a floor would be -4 and leave 2; and the one pair that wraps -/
theorem sdiv_of_minus_ten :
    let a : Word := -10
    (sdiv a 3).toInt = -3 ∧ (sdiv a 3).toInt ≠ -4 ∧ (sdiv (.ofNat 256 (2 ^ 255)) (-1)).toNat = 2 ^ 255 := by
  intro a
  obtain ⟨-, -, -, -, hquot⟩ := sdiv_rounds_towards_zero a 3
  obtain ⟨-, hleft⟩ := hquot (by decide) (by decide)
  refine ⟨(hleft (-3) (-1) (by decide)).2 (by decide), ?_, ?_⟩
  · intro hfloor
    exact absurd ((hleft (-4) 2 (by decide)).1 hfloor) (by decide)
  · exact (sdiv_rounds_towards_zero (.ofNat 256 (2 ^ 255)) (-1)).2.2.2.1 (by decide) (by decide)

end GasMachine.Word
