import Mathlib.Tactic
import GasMachine.Text.Decimal
import GasMachine.Proofs.HexPairs
/-
Hexadecimal text read by byte positions.

Here the text is cut at every second byte of its UTF-8 form, and each slice of two bytes is read as a number to the base
16. Two accidents are possible: a position that falls inside a character, and a slice that is no number. A slice such as
`+f` is a number, for its sign. `readByPosition_eq` says that past the checks for length and digits there is nothing of
the kind, and that the bytes are those that `decodeDigits` gives.
-/
namespace GasMachine.Text.Hex

variable {t : List Char}

/-- a text cut at a byte position; `none` inside a character and behind the end -/
def cut : List Char → ℕ → Option (List Char × List Char)
  | t, 0 => some ([], t)
  | [], _ + 1 => none
  | c :: t, n + 1 =>
    if c.utf8Size ≤ n + 1 then (cut t (n + 1 - c.utf8Size)).map fun (left, right) => (c :: left, right) else none

/-- the `n` bytes of a text from the position `i` on -/
def slice (t : List Char) (i n : ℕ) : Option (List Char) := do
  let (_, right) ← cut t i
  let (part, _) ← cut right n
  return part

/-- one more digit of a byte, if it is one and the value still fits -/
def pushDigit (n : ℕ) (c : Char) : Option ℕ := do
  let d ← digitValue? c
  if 16 * n + d < 256 then some (16 * n + d) else none

/-- the byte that a number to the base 16 is: one optional plus sign, and one or more digits -/
def byteOf (t : List Char) : Option UInt8 :=
  match Decimal.dropPlus t with
  | [] => none
  | t => (t.foldlM pushDigit 0).map Nat.toUInt8

/-- how a reading by byte positions ends -/
inductive Reading where
  | bytes (bs : List UInt8)
  | refused (cause : Refusal)
  /-- a slice is no number -/
  | notNumber
  /-- a slice begins or ends inside a character, or behind the end -/
  | offBoundary
deriving DecidableEq, Repr

/-- the bytes of the slices of two bytes at the positions given, up to the first that is none -/
def readSlices (t : List Char) : List ℕ → Reading
  | [] => .bytes []
  | i :: is =>
    match slice t i 2 with
    | none => .offBoundary
    | some part =>
      match byteOf part with
      | none => .notNumber
      | some b =>
        match readSlices t is with
        | .bytes bs => .bytes (b :: bs)
        | r => r

/-- the same two checks as `decodeDigits`, and then slices at every second byte position -/
def readByPosition (t : List Char) : Reading :=
  if utf8Length t % 2 ≠ 0 then .refused (.oddLength (utf8Length t))
  else match t.find? (fun c => (digitValue? c).isNone) with
    | some c => .refused (.unexpected c)
    | none => readSlices t (List.range' 0 ((utf8Length t + 1) / 2) 2)

/-- a reading that stays clear of both accidents -/
def Reading.ofExcept : Except Refusal (List UInt8) → Reading
  | .ok bs => .bytes bs
  | .error e => .refused e

/-- among digits every byte position is a boundary -/
theorem cut_of_digits (h : ∀ c ∈ t, c ∈ digits) {n : ℕ} (hn : n ≤ t.length) : cut t n = some (t.take n, t.drop n) := by
  induction t generalizing n with
  | nil =>
    obtain rfl : n = 0 := by simpa using hn
    rfl
  | cons c t ih =>
    cases n with
    | zero => rfl
    | succ n =>
      have hsize := (digit_facts (h c (by simp))).1
      have htail := ih (fun d hd => h d (by simp [hd])) (n := n) (by simpa using hn)
      rw [cut, hsize, if_pos (by omega), Nat.add_sub_cancel, htail]
      rfl

/-- two digits are a number, and have no sign -/
theorem byteOf_pair {a b : Char} (ha : a ∈ digits) (hb : b ∈ digits) :
    byteOf [a, b] = some (16 * (digitValue? a).getD 0 + (digitValue? b).getD 0).toUInt8 := by
  have hva := (digit_facts ha).2.1
  have hvb := (digit_facts hb).2.1
  have hplus : Decimal.dropPlus [a, b] = [a, b] := by
    have hne : a ≠ '+' := by
      rintro rfl
      exact absurd ha (by decide)
    simp [Decimal.dropPlus, hne]
  have hfirst : pushDigit 0 a = some (value a) := by simp [pushDigit, digitValue?_of_mem ha]; omega
  have hsecond : pushDigit (value a) b = some (16 * value a + value b) := by
    simp [pushDigit, digitValue?_of_mem hb]; omega
  rw [byteOf, hplus]
  simp [hfirst, hsecond, digitValue?_of_mem ha, digitValue?_of_mem hb]

/-- from an even position on, the slices of a text of digits are its pairs -/
theorem readSlices_of_digits (h : ∀ c ∈ t, c ∈ digits) {k n : ℕ} (hlen : t.length = k + 2 * n) :
    readSlices t (List.range' k n 2) = .bytes (pairs (t.drop k)) := by
  induction n generalizing k with
  | zero =>
    have hnil : t.drop k = [] := List.drop_eq_nil_of_le (by omega)
    rw [hnil]
    rfl
  | succ n ih =>
    have hcut := cut_of_digits h (n := k) (by omega)
    obtain ⟨a, b, rest, hdrop⟩ : ∃ a b rest, t.drop k = a :: b :: rest := by
      have hdropped : (t.drop k).length = 2 * n + 2 := by rw [List.length_drop]; omega
      match ht : t.drop k with
      | [] => rw [ht] at hdropped; simp at hdropped
      | [_] => rw [ht] at hdropped; simp at hdropped
      | a :: b :: rest => exact ⟨a, b, rest, rfl⟩
    have hmem : ∀ c ∈ a :: b :: rest, c ∈ digits := by
      intro c hc
      rw [← hdrop] at hc
      exact h c (List.mem_of_mem_drop hc)
    have hslice : slice t k 2 = some [a, b] := by
      have hpart := cut_of_digits hmem (n := 2) (by simp)
      simp [slice, hcut, hdrop, hpart]
    have hrest : t.drop (k + 2) = rest := by
      rw [← List.drop_drop, hdrop]
      rfl
    rw [List.range'_succ, readSlices, hslice]
    simp only [byteOf_pair (hmem a (by simp)) (hmem b (by simp)), ih (k := k + 2) (by omega), hrest, hdrop, pairs]

/-- **Reading by byte positions** gives what `decodeDigits` gives: past the two checks no slice falls inside a
character, and none fails to be a number. -/
theorem readByPosition_eq (t : List Char) : readByPosition t = .ofExcept (decodeDigits t) := by
  unfold readByPosition decodeDigits
  split_ifs with hodd
  · rfl
  · cases hfind : t.find? (fun c => (digitValue? c).isNone) with
    | some c => rfl
    | none =>
      have hall : ∀ c ∈ t, c ∈ digits := by
        intro c hc
        by_contra hnot
        exact List.find?_eq_none.1 hfind c hc ((isNone_digitValue? c).2 hnot)
      have hlen := utf8Length_of_digits hall
      exact readSlices_of_digits hall (by omega)

end GasMachine.Text.Hex
