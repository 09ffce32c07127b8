import Mathlib.Tactic
import GasMachine.Text.Decimal
import GasMachine.Proofs.TrimmedText
/-
Which texts are read as numbers, told without the function that reads them.

What counts of a text is what is left without the blanks at its ends. It denotes a number if it is one or more digits,
after one plus sign or none (`Numeral`, `Denotes`). Leading zeros are digits like the others, and there is no bound on
the number.

The reader takes one digit at a time and gives up as soon as the value so far leaves the range of 64 bits. A further
digit never makes a value smaller (`le_ofDigitChars`), so what leaves the range does not come back into it, and the
reader gives up on the numbers from 2^64 on and on no others (`foldlM_push_eq_some_iff`). Hence `read?_eq_some_iff`: a
text is read as a number if and only if it denotes it.
-/
namespace GasMachine.Text.Decimal

/-- `t` is one or more digits of value `n`, after one plus sign or none -/
def Numeral (t : List Char) (n : ℕ) : Prop :=
  ∃ sign ds, t = sign ++ ds ∧ (sign = [] ∨ sign = ['+']) ∧ ds ≠ [] ∧ (∀ c ∈ ds, c.isDigit) ∧
    n = Nat.ofDigitChars 10 ds 0

/-- `s` is a decimal number, `n`, blanks at its ends apart -/
def Denotes (s : String) (n : ℕ) : Prop := ∃ t, Stripped s.toList t ∧ Numeral t n

/-! ## Digits -/

variable {ds t : List Char} {n m : ℕ}

/-- the values that are read are those of the digits -/
theorem digitValue?_eq (c : Char) : digitValue? c = if c.isDigit then some (c.toNat - '0'.toNat) else none := by
  have hdigit : ('0' ≤ c ∧ c ≤ '9') ↔ c.isDigit = true := Char.isDigit_iff_toNat.symm
  simp only [digitValue?, hdigit]
  rfl

/-- a character is taken if it is a digit and the value with it is in range -/
theorem push_eq_some_iff {c : Char} :
    push n c = some m ↔ c.isDigit ∧ m = 10 * n + (c.toNat - '0'.toNat) ∧ m < 2 ^ 64 := by
  rw [push, digitValue?_eq]
  by_cases hdigit : c.isDigit
  · simp only [hdigit, if_true, Option.bind_eq_bind, Option.bind_some, Option.ite_none_right_eq_some, Option.some_inj]
    constructor
    · rintro ⟨hlt, rfl⟩
      exact ⟨trivial, rfl, hlt⟩
    · rintro ⟨-, rfl, hlt⟩
      exact ⟨hlt, rfl⟩
  · simp [hdigit]

/-- more digits never make a value smaller -/
theorem le_ofDigitChars (ds : List Char) (n : ℕ) : n ≤ Nat.ofDigitChars 10 ds n := by
  induction ds generalizing n with
  | nil => exact Nat.le_refl n
  | cons c ds ih =>
    rw [Nat.ofDigitChars_cons]
    calc n ≤ 10 * n + (c.toNat - '0'.toNat) := by omega
      _ ≤ _ := ih _

/-- a run of characters is taken if and only if all are digits and the value in the end is in range -/
theorem foldlM_push_eq_some_iff (hn : n < 2 ^ 64) :
    ds.foldlM push n = some m ↔ (∀ c ∈ ds, c.isDigit) ∧ m = Nat.ofDigitChars 10 ds n ∧ m < 2 ^ 64 := by
  induction ds generalizing n with
  | nil =>
    rw [List.foldlM_nil, Nat.ofDigitChars_nil]
    constructor
    · intro h
      cases h
      exact ⟨by simp, rfl, hn⟩
    · rintro ⟨-, rfl, -⟩
      rfl
  | cons c ds ih =>
    rw [List.foldlM_cons, Option.bind_eq_bind, Option.bind_eq_some_iff, List.forall_mem_cons, Nat.ofDigitChars_cons]
    constructor
    · rintro ⟨k, hk, hrest⟩
      obtain ⟨hc, rfl, hlt⟩ := push_eq_some_iff.1 hk
      obtain ⟨hds, hvalue, hrange⟩ := (ih hlt).1 hrest
      exact ⟨⟨hc, hds⟩, hvalue, hrange⟩
    · -- the value with the first digit is in range because the value in the end is
      rintro ⟨⟨hc, hds⟩, hvalue, hrange⟩
      have hlt : 10 * n + (c.toNat - '0'.toNat) < 2 ^ 64 :=
        (le_ofDigitChars ds _).trans_lt (hvalue ▸ hrange)
      exact ⟨_, push_eq_some_iff.2 ⟨hc, rfl, hlt⟩, (ih hlt).2 ⟨hds, hvalue, hrange⟩⟩

/-! ## Texts -/

/-- there is no sign among digits -/
theorem dropPlus_of_digits (h : ∀ c ∈ ds, c.isDigit) : dropPlus ds = ds := by
  unfold dropPlus
  split
  · exact absurd (h '+' (by simp)) (by decide)
  · rfl

/-- what is dropped is a sign or nothing -/
theorem dropPlus_sign (t : List Char) : ∃ sign, t = sign ++ dropPlus t ∧ (sign = [] ∨ sign = ['+']) := by
  unfold dropPlus
  split
  · exact ⟨['+'], rfl, .inr rfl⟩
  · exact ⟨[], rfl, .inl rfl⟩

/-- a numeral is told by what is left of it without the sign -/
theorem numeral_iff :
    Numeral t n ↔ dropPlus t ≠ [] ∧ (∀ c ∈ dropPlus t, c.isDigit) ∧ n = Nat.ofDigitChars 10 (dropPlus t) 0 := by
  constructor
  · rintro ⟨sign, ds, rfl, rfl | rfl, hne, hds, hvalue⟩
    · rw [List.nil_append, dropPlus_of_digits hds]
      exact ⟨hne, hds, hvalue⟩
    · exact ⟨hne, hds, hvalue⟩
  · rintro ⟨hne, hds, hvalue⟩
    obtain ⟨sign, ht, hsign⟩ := dropPlus_sign t
    exact ⟨sign, dropPlus t, ht, hsign, hne, hds, hvalue⟩

theorem denotes_iff {s : String} : Denotes s n ↔ Numeral (trim s.toList) n := by
  constructor
  · rintro ⟨t, ht, hn⟩
    rwa [ht.trim_eq]
  · intro hn
    exact ⟨_, stripped_trim _, hn⟩

/-- **Decimal text** is read as a number of 64 bits if and only if it denotes that number. -/
theorem read?_eq_some_iff {s : String} {n : UInt64} : read? s = some n ↔ Denotes s n.toNat := by
  rw [denotes_iff, numeral_iff, read?]
  generalize dropPlus (trim s.toList) = ds
  cases ds with
  | nil => simp
  | cons c ds =>
    have hdigits (m : ℕ) : (c :: ds).foldlM push 0 = some m ↔ _ := foldlM_push_eq_some_iff (by decide)
    simp only [digits, Option.map_eq_some_iff, hdigits]
    constructor
    · rintro ⟨m, ⟨hds, hvalue, hrange⟩, rfl⟩
      refine ⟨by simp, hds, ?_⟩
      rw [UInt64.toNat_ofNat_of_lt' hrange, hvalue]
    · rintro ⟨-, hds, hvalue⟩
      exact ⟨n.toNat, ⟨hds, hvalue, n.toNat_lt⟩, UInt64.ofNat_toNat⟩

/-- a text is not read if and only if it denotes no number, or one out of range -/
theorem read?_eq_none_iff {s : String} : read? s = none ↔ ∀ n, Denotes s n → 2 ^ 64 ≤ n := by
  constructor
  · intro hnone n hn
    by_contra hlt
    rw [← UInt64.toNat_ofNat_of_lt' (Nat.lt_of_not_le hlt), ← read?_eq_some_iff, hnone] at hn
    cases hn
  · intro hlarge
    cases hread : read? s with
    | none => rfl
    | some n => exact absurd (hlarge _ (read?_eq_some_iff.1 hread)) (Nat.not_le.2 n.toNat_lt)

end GasMachine.Text.Decimal
