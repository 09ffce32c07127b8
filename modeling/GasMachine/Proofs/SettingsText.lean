import Mathlib.Tactic
import GasMachine.Settings
import GasMachine.Proofs.QuotedText
/-
The text that keeps settings reads back as those settings.

The text has two lines, each a bare name, an equals sign and a value. A decimal number in the range of 64 bits with sign
reads back as itself (`Scalar.read_decimal`), as does a quoted text (`Toml.read_text`). `Document.lines_pair` reads one
line of that form, whatever its name and its value are, and `ofToml_toToml` puts the two lines together.
-/
namespace GasMachine

open Toml

namespace Toml

/-- two characters differ if a test tells them apart -/
theorem ne_of_test {p : Char → Bool} {c d : Char} (hc : p c = true) (hd : p d = false) : c ≠ d := by
  rintro rfl
  rw [hc] at hd
  cases hd

namespace Scalar

/-! ## Decimal numbers -/

theorem toNat_of_isDigit {c : Char} (h : c.isDigit = true) : 48 ≤ c.toNat ∧ c.toNat ≤ 57 := by
  simpa [Char.isDigit, UInt32.le_iff_toNat_le] using h

theorem digitValue?_of_isDigit {c : Char} (h : c.isDigit = true) : digitValue? 10 c = some (c.toNat - '0'.toNat) := by
  have hrange := toNat_of_isDigit h
  have hdigit : '0' ≤ c ∧ c ≤ '9' := by
    simp only [Char.le_def, UInt32.le_iff_toNat_le]
    exact hrange
  have hzero : '0'.toNat = 48 := rfl
  simp only [digitValue?, hdigit, and_self, if_true, hzero]
  exact if_pos (by omega)

theorem isEnd_of_isDigit {c : Char} (h : c.isDigit = true) : isEnd c = false := by
  simp only [isEnd, Bool.or_eq_false_iff, beq_eq_false_iff_ne]
  refine ⟨⟨⟨⟨⟨⟨⟨?_, ?_⟩, ?_⟩, ?_⟩, ?_⟩, ?_⟩, ?_⟩, ?_⟩ <;> exact ne_of_test h (by decide)

/-- a number has no leading zero, unless it is zero -/
theorem toDigits_head (n : ℕ) : Nat.toDigits 10 n = ['0'] ∨ (Nat.toDigits 10 n).head? ≠ some '0' := by
  induction n using Nat.strong_induction_on with
  | _ n ih =>
    rw [Nat.toDigits_eq_if (by decide)]
    split_ifs with h
    · interval_cases n <;> decide
    · refine .inr ?_
      have hpos : Nat.toDigits 10 (n / 10) ≠ ['0'] := by
        intro hzero
        have hvalue := congrArg (fun ds => Nat.ofDigitChars 10 ds 0) hzero
        simp only [Nat.ofDigitChars_toDigits (by decide : 1 < 10) (by decide : 10 ≤ 10)] at hvalue
        have : Nat.ofDigitChars 10 ['0'] 0 = 0 := by decide
        omega
      have hhead := (ih (n / 10) (by omega)).resolve_left hpos
      rwa [List.head?_append_of_ne_nil _ Nat.toDigits_ne_nil]

/-- a text without the separator is one piece -/
theorem split_of_not_mem {sep : Char} {cs : List Char} (h : sep ∉ cs) : Text.split sep cs = [cs] := by
  induction cs with
  | nil => rfl
  | cons c cs ih =>
    have hc : c ≠ sep := fun h' => h (by simp [h'])
    rw [Text.split, if_neg hc, ih fun h' => h (by simp [h'])]

/-- digits without underscores are all digits of the number -/
theorem digits?_of_isDigit {ds : List Char} (hne : ds ≠ []) (h : ∀ c ∈ ds, c.isDigit = true) :
    digits? 10 ds = some ds := by
  have hbar : '_' ∉ ds := fun hmem => absurd (h '_' hmem) (by decide)
  have hall : ∀ c ∈ ds, digitValue? 10 c ≠ none := by
    intro c hc
    rw [digitValue?_of_isDigit (h c hc)]
    exact Option.some_ne_none _
  simpa [digits?, split_of_not_mem hbar, hne] using hall

theorem valueOf_of_isDigit {ds : List Char} (h : ∀ c ∈ ds, c.isDigit = true) :
    valueOf 10 ds = Nat.ofDigitChars 10 ds 0 := by
  rw [valueOf, Nat.ofDigitChars_eq_foldl]
  refine List.foldl_ext _ _ _ fun n c hc => ?_
  rw [digitValue?_of_isDigit (h c hc), Option.getD_some]

theorem sign_of_isDigit {ds : List Char} (h : ∀ c ∈ ds, c.isDigit = true) : sign ds = (false, ds) := by
  unfold sign
  split
  · exact absurd (h '+' (by simp)) (by decide)
  · exact absurd (h '-' (by simp)) (by decide)
  · rfl

theorem isDigit_of_mem_toDigits {n : ℕ} : ∀ c ∈ Nat.toDigits 10 n, c.isDigit = true :=
  fun _ => Nat.isDigit_of_mem_toDigits (by decide) (by decide)

theorem wholeDigits?_toDigits (n : ℕ) : wholeDigits? (Nat.toDigits 10 n) = some (Nat.toDigits 10 n) := by
  rw [wholeDigits?, digits?_of_isDigit Nat.toDigits_ne_nil isDigit_of_mem_toDigits]
  rcases toDigits_head n with h | h
  · rw [h]
    rfl
  · split
    · simp_all
    · rfl

/-- a decimal number in range is the integer it denotes -/
theorem integer?_toDigits {n : ℕ} (h : n < 2 ^ 63) : integer? (Nat.toDigits 10 n) = some n := by
  have hdigits := isDigit_of_mem_toDigits (n := n)
  have hvalue : valueOf 10 (Nat.toDigits 10 n) = n := by
    rw [valueOf_of_isDigit hdigits, Nat.ofDigitChars_toDigits (by decide) (by decide)]
  have hrange : Int64.minValue.toInt ≤ n ∧ (n : ℤ) ≤ Int64.maxValue.toInt := by
    rw [Int64.toInt_minValue, Int64.toInt_maxValue]
    omega
  unfold integer?
  split
  · next heq => exact absurd (hdigits 'x' (by simp [heq])) (by decide)
  · next heq => exact absurd (hdigits 'o' (by simp [heq])) (by decide)
  · next heq => exact absurd (hdigits 'b' (by simp [heq])) (by decide)
  · simp [sign_of_isDigit hdigits, wholeDigits?_toDigits, hvalue, inRange, hrange]

/-- **A decimal number reads back**, up to the end of its line. -/
theorem read_decimal {n : ℕ} (h : n < 2 ^ 63) (rest : List Char) :
    Scalar.read (Nat.toDigits 10 n ++ '\n' :: rest) = some (.integer n, '\n' :: rest) := by
  have hdigits := isDigit_of_mem_toDigits (n := n)
  have htoken : (Nat.toDigits 10 n ++ '\n' :: rest).takeWhile (fun c => !isEnd c) = Nat.toDigits 10 n := by
    rw [List.takeWhile_append_of_pos fun c hc => by rw [isEnd_of_isDigit (hdigits c hc)]; rfl]
    simp [isEnd]
  have htrue : Nat.toDigits 10 n ≠ ['t', 'r', 'u', 'e'] := fun heq => absurd (hdigits 't' (by simp [heq])) (by decide)
  have hfalse : Nat.toDigits 10 n ≠ ['f', 'a', 'l', 's', 'e'] :=
    fun heq => absurd (hdigits 'f' (by simp [heq])) (by decide)
  simp [Scalar.read, htoken, classify, htrue, hfalse, integer?_toDigits h]

end Scalar

/-! ## Values -/

/-- what starts with no quote and no bracket is a scalar -/
theorem value_scalar {c : Char} (fuel room : ℕ) (cs : List Char) (hbasic : c ≠ '"') (hliteral : c ≠ '\'')
    (harray : c ≠ '[') (hinline : c ≠ '\x7b') : value (fuel + 1) room (c :: cs) = Scalar.read (c :: cs) := by
  unfold value
  split <;> simp_all

/-- a value written on a line: no blank is in front of it, and it is read up to the end of the line -/
structure Written (item : Item) (cs : List Char) : Prop where
  starts : ∀ rest, skipBlanks (cs ++ rest) = cs ++ rest
  reads : ∀ fuel room rest, value (fuel + 1) room (cs ++ '\n' :: rest) = some (item, '\n' :: rest)

theorem skipBlanks_cons {c : Char} (cs : List Char) (hblank : c ≠ ' ') (htab : c ≠ '\t') :
    skipBlanks (c :: cs) = c :: cs := by
  simp [skipBlanks, hblank, htab]

theorem written_decimal {n : ℕ} (h : n < 2 ^ 63) : Written (.integer n) (Nat.toDigits 10 n) := by
  obtain ⟨c, ds, hds⟩ := List.exists_cons_of_ne_nil (Nat.toDigits_ne_nil (n := n) (b := 10))
  have hdigit : c.isDigit = true := Scalar.isDigit_of_mem_toDigits (n := n) c (by simp [hds])
  constructor
  · intro rest
    rw [hds]
    exact skipBlanks_cons _ (ne_of_test hdigit (by decide)) (ne_of_test hdigit (by decide))
  · intro fuel room rest
    have hread := Scalar.read_decimal h rest
    rw [hds, List.cons_append] at hread ⊢
    rw [value_scalar, hread] <;> exact ne_of_test hdigit (by decide)

/-- a written text starts with a quote -/
theorem text_eq_cons (cs : List Char) : ∃ q body, (q = '"' ∨ q = '\'') ∧ Writer.text cs = q :: body := by
  have hquotes : ∀ q spansLines triple body, ∃ rest, Writer.quotes q spansLines triple body = q :: rest := by
    intro q spansLines triple body
    unfold Writer.quotes
    split_ifs <;> exact ⟨_, rfl⟩
  unfold Writer.text
  split_ifs
  · obtain ⟨rest, hrest⟩ := hquotes '\'' _ _ cs
    exact ⟨'\'', rest, .inr rfl, hrest⟩
  · obtain ⟨rest, hrest⟩ := hquotes '"' _ _ _
    exact ⟨'"', rest, .inl rfl, hrest⟩

theorem written_text (cs : List Char) : Written (.text (String.ofList cs)) (Writer.text cs) := by
  obtain ⟨q, body, hq, htext⟩ := text_eq_cons cs
  constructor
  · intro rest
    rw [htext]
    rcases hq with rfl | rfl <;> rfl
  · intro fuel room rest
    have hread : Quotes.read (Writer.text cs ++ '\n' :: rest) = some (cs, '\n' :: rest) :=
      read_text cs (by simp) (by simp)
    rw [htext, List.cons_append] at hread ⊢
    rcases hq with rfl | rfl <;> simp [value, hread]

/-! ## One line of a document -/

/-- a bare name is read up to the blank behind it -/
theorem keyName_bare {name : List Char} (hne : name ≠ []) (hbare : ∀ c ∈ name, isBare c = true) (rest : List Char) :
    keyName (name ++ ' ' :: rest) = some (String.ofList name, ' ' :: rest) := by
  have htake : (name ++ ' ' :: rest).takeWhile isBare = name := by
    rw [List.takeWhile_append_of_pos hbare]
    simp [isBare]
  have hquoted : ∀ q cs, isBare q = false → name ++ ' ' :: rest ≠ q :: cs := by
    intro q cs hq heq
    obtain ⟨c, name, rfl⟩ := List.exists_cons_of_ne_nil hne
    exact ne_of_test (hbare c (by simp)) hq (List.cons.inj heq).1
  unfold keyName
  split
  · next heq => exact absurd heq (hquoted '"' _ (by decide))
  · next heq => exact absurd heq (hquoted '\'' _ (by decide))
  · simp [htake, hne]

/-- a bare name with an equals sign behind it is a key of one name -/
theorem keyOf_bare {name : List Char} (room : ℕ) (hne : name ≠ []) (hbare : ∀ c ∈ name, isBare c = true)
    (rest : List Char) :
    keyOf (room + 1) (name ++ ' ' :: '=' :: rest) = some (([], String.ofList name), '=' :: rest) := by
  have hstart : skipBlanks (name ++ ' ' :: '=' :: rest) = name ++ ' ' :: '=' :: rest := by
    obtain ⟨c, name, rfl⟩ := List.exists_cons_of_ne_nil hne
    have hc := hbare c (by simp)
    exact skipBlanks_cons _ (ne_of_test hc (by decide)) (ne_of_test hc (by decide))
  have hequals : skipBlanks (' ' :: '=' :: rest) = '=' :: rest := rfl
  rw [keyOf, hstart, keyName_bare hne hbare]
  simp [hequals]

theorem lineEnd_lineFeed (rest : List Char) : lineEnd ('\n' :: rest) = some rest := rfl

namespace Document

/-- a line of a bare name, an equals sign and a value sets that name -/
theorem lines_pair {name written : List Char} {item : Item} {d d' : Document} (hne : name ≠ [])
    (hbare : ∀ c ∈ name, isBare c = true) (hwritten : Written item written)
    (hassign : d.assign [] (String.ofList name) item = some d') (fuel : ℕ) (rest : List Char) :
    lines (fuel + 1) d (name ++ ' ' :: '=' :: ' ' :: (written ++ '\n' :: rest)) = lines fuel d' rest := by
  have hblank : skipBlanks (' ' :: (written ++ '\n' :: rest)) = written ++ '\n' :: rest := by
    rw [skipBlanks, List.dropWhile_cons_of_pos (by decide)]
    exact hwritten.starts _
  have hpair : readPair d (name ++ ' ' :: '=' :: ' ' :: (written ++ '\n' :: rest)) = some (d', rest) := by
    have hkey : key (name ++ ' ' :: '=' :: ' ' :: (written ++ '\n' :: rest)) = _ := keyOf_bare 126 hne hbare _
    rw [readPair, hkey]
    simp [hblank, hwritten.reads, hassign, lineEnd_lineFeed]
  obtain ⟨c, name, rfl⟩ := List.exists_cons_of_ne_nil hne
  -- a bare character starts no blank, no header, no comment and no empty line
  have hother : ∀ q, isBare q = false → c ≠ q := fun q hq => ne_of_test (hbare c (by simp)) hq
  have hline : ¬(c = '#' ∨ c = '\n' ∨ c = '\r') := by
    simp [hother '#' (by decide), hother '\n' (by decide), hother '\r' (by decide)]
  rw [lines, List.cons_append, skipBlanks_cons _ (hother ' ' (by decide)) (hother '\t' (by decide))]
  split
  · next heq => exact absurd heq (List.cons_ne_nil _ _)
  · next heq => exact absurd (List.cons.inj heq).1 (hother '[' (by decide))
  · next heq =>
    obtain ⟨rfl, rfl⟩ := List.cons.inj heq
    rw [if_neg hline]
    exact congrArg (Option.bind · fun r => lines fuel r.1 r.2) hpair

end Document

end Toml

namespace Settings

/-! ## The two lines -/

/-- the settings of a document with the two names that are kept -/
theorem ofEntries_saved (s : Settings) :
    ofEntries [("gas_limit", .integer s.gasLimit.toNat), ("fork", .text s.fork)] = .ok s := by
  have hlimit : Entries.get? [("gas_limit", .integer s.gasLimit.toNat), ("fork", .text s.fork)] "gas_limit" =
    some (.integer s.gasLimit.toNat) := rfl
  have hfork : Entries.get? [("gas_limit", .integer s.gasLimit.toNat), ("fork", .text s.fork)] "fork" =
    some (.text s.fork) := rfl
  rw [ofEntries, hlimit, hfork]
  simp

/-- a document of the two lines has the two entries -/
theorem lines_saved {n : ℕ} (h : n < 2 ^ 63) (fork : List Char) (fuel : ℕ) :
    Document.lines (fuel + 3) ⟨[], []⟩ ("gas_limit".toList ++ ' ' :: '=' :: ' ' :: (Nat.toDigits 10 n ++ '\n' ::
        ("fork".toList ++ ' ' :: '=' :: ' ' :: (Writer.text fork ++ '\n' :: [])))) =
      some ⟨[("gas_limit", .integer n), ("fork", .text (String.ofList fork))], []⟩ := by
  rw [Document.lines_pair (by decide) (List.all_eq_true.mp rfl) (written_decimal h) rfl,
    Document.lines_pair (by decide) (List.all_eq_true.mp rfl) (written_text fork) rfl]
  rfl

theorem parse_saved {n : ℕ} (h : n < 2 ^ 63) (fork : List Char) :
    parse (String.ofList
        ("gas_limit = ".toList ++ Nat.toDigits 10 n ++ "\nfork = ".toList ++ Writer.text fork ++ ['\n'])) =
      some [("gas_limit", .integer n), ("fork", .text (String.ofList fork))] := by
  have hlines : "gas_limit = ".toList ++ Nat.toDigits 10 n ++ "\nfork = ".toList ++ Writer.text fork ++ ['\n'] =
      "gas_limit".toList ++ ' ' :: '=' :: ' ' :: (Nat.toDigits 10 n ++ '\n' :: ("fork".toList ++ ' ' :: '=' :: ' ' ::
        (Writer.text fork ++ '\n' :: []))) := by
    simp
  have hmark : ∀ cs, dropByteOrderMark ("gas_limit".toList ++ cs) = "gas_limit".toList ++ cs := fun cs => rfl
  -- each of the two lines, and the end behind them, takes one of the bound
  have hfuel : ∀ cs : List Char, ("gas_limit".toList ++ cs).length + 1 = (cs.length + 7) + 3 := by
    intro cs
    rw [List.length_append, show "gas_limit".toList.length = 9 from rfl]
    omega
  rw [hlines, parse, String.toList_ofList]
  simp only [hmark, hfuel, lines_saved h, Option.map_some]

/-- **The text of settings reads back as those settings.** -/
theorem ofToml_toToml {s : Settings} {text : String} (h : s.toToml = .ok text) : ofToml text = .ok s := by
  unfold toToml at h
  split_ifs at h with hrange
  obtain rfl := Except.ok.inj h
  rw [ofToml, parse_saved hrange, String.ofList_toList]
  exact ofEntries_saved s

end Settings

end GasMachine
