import Mathlib.Tactic
import Mathlib.Data.List.TakeWhile
import GasMachine.Text.Blank
/-
What trimming leaves of a text, told without the function that trims.

A trimmed text stands between blanks in the text it was made from, and neither begins nor ends with one. `stripped_trim`
says that `trim` gives such a text, and `Stripped.trim_eq` that there is no other.
-/
namespace GasMachine.Text

/-- `t` is `s` without the blanks at its ends -/
structure Stripped (s t : List Char) : Prop where
  between : ∃ before after, s = before ++ t ++ after ∧ (∀ c ∈ before, isBlank c) ∧ ∀ c ∈ after, isBlank c
  first : ∀ c ∈ t.head?, isBlank c = false
  last : ∀ c ∈ t.getLast?, isBlank c = false

variable {s t : List Char}

/-- blanks are dropped up to the first character that is none -/
theorem dropWhile_blanks {before : List Char} (hbefore : ∀ c ∈ before, isBlank c)
    (hfirst : ∀ c ∈ t.head?, isBlank c = false) : (before ++ t).dropWhile isBlank = t := by
  rw [List.dropWhile_append_of_pos hbefore, List.dropWhile_eq_self_iff]
  intro hpos
  have hhead : t[0] ∈ t.head? := by rw [List.head?_eq_getElem?]; simp
  simp [hfirst _ hhead]

/-- what is left begins with no blank -/
theorem head?_dropWhile_blank (s : List Char) : ∀ c ∈ (s.dropWhile isBlank).head?, isBlank c = false := by
  intro c hc
  have hnot := List.head?_dropWhile_not isBlank s
  rw [Option.mem_def.1 hc] at hnot
  exact hnot

theorem stripped_trim (s : List Char) : Stripped s (trim s) := by
  set u := s.dropWhile isBlank with hu
  have hcut : u = trim s ++ (u.reverse.takeWhile isBlank).reverse := by
    rw [trim, ← hu, ← List.reverse_append, List.takeWhile_append_dropWhile, List.reverse_reverse]
  refine ⟨⟨s.takeWhile isBlank, (u.reverse.takeWhile isBlank).reverse, ?_, ?_, ?_⟩, ?_, ?_⟩
  · rw [List.append_assoc, ← hcut, hu, List.takeWhile_append_dropWhile]
  · intro c hc
    exact List.mem_takeWhile_imp hc
  · intro c hc
    exact List.mem_takeWhile_imp (List.mem_reverse.1 hc)
  · -- the trimmed text is empty, or begins as the text without its leading blanks does
    intro c hc
    refine head?_dropWhile_blank s c ?_
    rw [← hu, hcut, List.head?_append, Option.mem_def.1 hc]
    rfl
  · intro c hc
    rw [trim, List.getLast?_reverse] at hc
    exact head?_dropWhile_blank _ c hc

/-- **Trimming** gives the one text that stands between blanks and neither begins nor ends with one. -/
theorem Stripped.trim_eq (h : Stripped s t) : trim s = t := by
  obtain ⟨before, after, rfl, hbefore, hafter⟩ := h.between
  have hlast : ∀ c ∈ t.reverse.head?, isBlank c = false := by
    rw [List.head?_reverse]
    exact h.last
  rw [trim]
  cases t with
  | nil =>
    have hall : ∀ c ∈ before ++ [] ++ after, isBlank c := by
      intro c hc
      rcases List.mem_append.1 hc with hc | hc
      · exact hbefore c (by simpa using hc)
      · exact hafter c hc
    rw [List.dropWhile_eq_nil_iff.2 hall]
    rfl
  | cons c cs =>
    have hfirst : ∀ d ∈ (c :: cs ++ after).head?, isBlank d = false := h.first
    rw [List.append_assoc, dropWhile_blanks hbefore hfirst, List.reverse_append,
      dropWhile_blanks (by simpa using hafter) hlast, List.reverse_reverse]

end GasMachine.Text
