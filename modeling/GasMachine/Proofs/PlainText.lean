import Mathlib.Tactic
import GasMachine.Text.Split
import GasMachine.Text.Style
/-
Plain text, its lines, and text styled by escape sequences.

A text is plain if it has neither line feed, carriage return nor escape, nor any other character below the blank
(`Plain`). Two things are then lossless.

- Lines. Plain lines joined by line feeds are cut at these line feeds again, and at no other place: no line feed stands in
  a line and no carriage return at its end (`lines_intercalate`).
- Styles. No escape sequence begins in a plain text, so that removing the escape sequences (`unstyled`) leaves such a text
  as it is and undoes every style that was put around it (`unstyled_enclosed`), line by line (`unstyled_intercalate`).
-/
namespace GasMachine.Text

/-- every character of `cs` is the blank or above it -/
def Plain (cs : List Char) : Prop := ∀ c ∈ cs, 32 ≤ c.toNat

instance (cs : List Char) : Decidable (Plain cs) := List.decidableBAll _ cs

variable {cs rest : List Char}

namespace Plain

theorem append {ds : List Char} (hc : Plain cs) (hd : Plain ds) : Plain (cs ++ ds) := by
  intro c hmem
  exact (List.mem_append.1 hmem).elim (hc c) (hd c)

theorem not_mem {c : Char} (h : Plain cs) (hc : c.toNat < 32) : c ∉ cs :=
  fun hmem => Nat.not_lt.2 (h c hmem) hc

theorem of_isDigit (h : ∀ c ∈ cs, c.isDigit) : Plain cs := by
  intro c hc
  have hrange := Char.isDigit_iff_toNat.1 (h c hc)
  exact le_trans (by decide) hrange.1

end Plain

/-! ## Lines -/

/-- the pieces of a text are those of the library's cut -/
theorem split_eq_splitOn (sep : Char) (cs : List Char) : split sep cs = cs.splitOn sep := by
  induction cs with
  | nil => rfl
  | cons c cs ih =>
    rw [split, ih, List.splitOn_cons_eq_if_modifyHead]
    simp only [beq_iff_eq]
    split_ifs
    · rfl
    · split
      · rename_i hnil
        exact absurd hnil (List.splitOn_ne_nil sep cs)
      · rename_i hcons
        rw [hcons, List.modifyHead_cons]

theorem dropReturn_of_not_mem (h : '\r' ∉ cs) : dropReturn cs = cs := by
  fun_induction dropReturn cs with
  | case1 => rfl
  | case2 => simp at h
  | case3 c cs _ ih => rw [ih fun hmem => h (List.mem_cons_of_mem c hmem)]

/-- pieces without carriage returns, the last of them not empty, are lines -/
theorem ofPieces_of_not_mem {ps : List (List Char)} (hlast : ps.getLast? ≠ some []) (h : ∀ p ∈ ps, '\r' ∉ p) :
    ofPieces ps = ps := by
  fun_induction ofPieces ps with
  | case1 => rfl
  | case2 last hempty =>
    rw [List.isEmpty_iff.1 hempty] at hlast
    exact absurd rfl hlast
  | case3 => rfl
  | case4 piece pieces hne ih =>
    -- there are pieces left, so that the last one is among them
    have hlast' : pieces.getLast? ≠ some [] := by
      cases pieces with
      | nil => exact absurd rfl hne
      | cons q qs => simpa using hlast
    rw [dropReturn_of_not_mem (h piece (by simp)), ih hlast' fun p hp => h p (List.mem_cons_of_mem piece hp)]

/-- **Plain lines** joined by line feeds are the lines of the text, unless the last one is empty. -/
theorem lines_intercalate {ls : List (List Char)} (hne : ls ≠ []) (hlast : ls.getLast? ≠ some [])
    (h : ∀ l ∈ ls, Plain l) : lines (['\n'].intercalate ls) = ls := by
  have hcut : split '\n' (['\n'].intercalate ls) = ls := by
    rw [split_eq_splitOn]
    exact List.splitOn_intercalate '\n' (fun l hl => (h l hl).not_mem (by decide)) hne
  rw [lines, hcut]
  exact ofPieces_of_not_mem hlast fun l hl => (h l hl).not_mem (by decide)

/-! ## Styles -/

/-- what may stand among the parameters of an escape sequence -/
def isParameter (c : Char) : Bool := c.isDigit || c == ';'

/-- what follows the escape sequence that a text begins with, if it begins with one -/
def afterEscape? : List Char → Option (List Char)
  | '\x1b' :: '[' :: cs =>
    match cs.dropWhile isParameter with
    | 'm' :: rest => some rest
    | _ => none
  | _ => none

theorem length_afterEscape? (h : afterEscape? cs = some rest) : rest.length < cs.length := by
  unfold afterEscape? at h
  split at h
  · rename_i ds
    have hle := (List.dropWhile_suffix (p := isParameter) (l := ds)).length_le
    split at h
    · rename_i hdrop
      cases h
      rw [hdrop] at hle
      simp only [List.length_cons] at hle ⊢
      omega
    · cases h
  · cases h

/-- a text without its escape sequences -/
def unstyled : List Char → List Char
  | [] => []
  | c :: cs =>
    match _h : afterEscape? (c :: cs) with
    | some rest => unstyled rest
    | none => c :: unstyled cs
termination_by cs => cs.length
decreasing_by
  · exact length_afterEscape? _h
  · exact Nat.lt_succ_self _

/-- `text` between the escape sequence with the parameters `codes` and the one that turns all styles off -/
def enclosed (codes text : String) : String := "\x1b[" ++ codes ++ "m" ++ text ++ "\x1b[0m"

theorem paint_true (style : Style) (text : String) : style.paint true text = enclosed style.codes text := rfl

theorem unstyled_eq (c : Char) (cs : List Char) : unstyled (c :: cs) =
    match afterEscape? (c :: cs) with
    | some rest => unstyled rest
    | none => c :: unstyled cs := by
  rw [unstyled]
  split <;> rename_i heq <;> rw [heq]

theorem unstyled_cons {c : Char} (hc : c ≠ '\x1b') : unstyled (c :: cs) = c :: unstyled cs := by
  have hnone : afterEscape? (c :: cs) = none := by
    unfold afterEscape?
    split
    · rename_i heq
      cases heq
      exact absurd rfl hc
    · rfl
  rw [unstyled_eq, hnone]

/-- plain text is left as it is -/
theorem unstyled_append (h : Plain cs) : unstyled (cs ++ rest) = cs ++ unstyled rest := by
  induction cs with
  | nil => rfl
  | cons c cs ih =>
    have hc : c ≠ '\x1b' := by
      rintro rfl
      exact h.not_mem (by decide) List.mem_cons_self
    rw [List.cons_append, unstyled_cons hc, ih fun d hd => h d (List.mem_cons_of_mem c hd), List.cons_append]

/-- an escape sequence is removed -/
theorem unstyled_sequence {codes : List Char} (h : codes.all isParameter) :
    unstyled ('\x1b' :: '[' :: (codes ++ 'm' :: rest)) = unstyled rest := by
  have hdrop : (codes ++ 'm' :: rest).dropWhile isParameter = 'm' :: rest := by
    rw [List.dropWhile_append_of_pos (List.all_eq_true.1 h)]
    rfl
  have hafter : afterEscape? ('\x1b' :: '[' :: (codes ++ 'm' :: rest)) = some rest := by
    simp only [afterEscape?, hdrop]
  rw [unstyled_eq, hafter]

/-- **A style around plain text** is removed with no trace. -/
theorem unstyled_enclosed {codes text : String} (hcodes : codes.toList.all isParameter) (htext : Plain text.toList) :
    unstyled ((enclosed codes text).toList ++ rest) = text.toList ++ unstyled rest := by
  have hlist : (enclosed codes text).toList ++ rest =
      '\x1b' :: '[' :: (codes.toList ++ 'm' :: (text.toList ++ '\x1b' :: '[' :: (['0'] ++ 'm' :: rest))) := by
    simp [enclosed]
  rw [hlist, unstyled_sequence hcodes, unstyled_append htext, unstyled_sequence (by decide)]

/-- if removing the escape sequences undoes what is done to each line, it does so for the lines joined -/
theorem unstyled_intercalate {f : String → String} {ls : List String}
    (h : ∀ l ∈ ls, ∀ rest, unstyled ((f l).toList ++ rest) = l.toList ++ unstyled rest) :
    unstyled ("\n".intercalate (ls.map f)).toList = ("\n".intercalate ls).toList := by
  induction ls with
  | nil => simp [unstyled]
  | cons l ls ih =>
    have hrest := ih fun k hk => h k (List.mem_cons_of_mem l hk)
    cases ls with
    | nil =>
      have hl := h l (by simp) []
      simpa [unstyled] using hl
    | cons k ls =>
      -- the line is undone whatever follows it, here the line feed and the lines left
      have hl := h l (by simp) ('\n' :: ("\n".intercalate ((k :: ls).map f)).toList)
      rw [unstyled_cons (by decide), hrest] at hl
      simpa using hl

end GasMachine.Text
