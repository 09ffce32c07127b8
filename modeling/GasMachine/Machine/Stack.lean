import GasMachine.Word
/-
The operand stack: at most 1024 words, the top one first.

`push` faults on a full stack; `pop`, `peek` and `set` fault below the bottom. A stack is written as the hexadecimal
texts of its words in brackets.
-/
namespace GasMachine

/-- the operand stack -/
structure Stack where
  /-- the words, top first -/
  words : List Word
deriving DecidableEq, Repr

namespace Stack

/-- the greatest number of words a stack holds -/
def limit : Nat := 1024

/-- the stack without words -/
def empty : Stack := ⟨[]⟩

/-- the number of words -/
def size (s : Stack) : Nat := s.words.length

/-- whether there is no word -/
def isEmpty (s : Stack) : Bool := s.words.isEmpty

/-- the stack with `w` on top -/
def push (s : Stack) (w : Word) : Except Fault Stack :=
  if s.size < limit then .ok ⟨w :: s.words⟩ else .error .stackOverflow

/-- the top word and the stack below it -/
def pop (s : Stack) : Except Fault (Word × Stack) :=
  match s.words with
  | w :: rest => .ok (w, ⟨rest⟩)
  | [] => .error .stackUnderflow

/-- the word `i` places below the top -/
def peek (s : Stack) (i : Nat) : Except Fault Word :=
  match s.words[i]? with
  | some w => .ok w
  | none => .error .stackUnderflow

/-- the stack with the word `i` places below the top replaced -/
def set (s : Stack) (i : Nat) (w : Word) : Except Fault Stack :=
  if i < s.size then .ok ⟨s.words.set i w⟩ else .error .stackUnderflow

/-- a word is not found only if the stack does not reach as far down -/
theorem peek_error {s : Stack} {i : Nat} {e : Fault} (h : s.peek i = .error e) :
    s.words.length ≤ i ∧ e = .stackUnderflow := by
  unfold peek at h
  split at h
  · cases h
  · rename_i hnone
    cases h
    exact ⟨List.getElem?_eq_none_iff.1 hnone, rfl⟩

/-- where the second word is found, the first can be taken off, and then the second taken off or replaced -/
theorem pop_of_peek_one {s : Stack} {b : Word} (h : s.peek 1 = .ok b) :
    ∃ a rest, s.words = a :: b :: rest ∧ s.pop = .ok (a, ⟨b :: rest⟩) ∧ pop ⟨b :: rest⟩ = .ok (b, ⟨rest⟩) ∧
      ∀ w, set ⟨b :: rest⟩ 0 w = .ok ⟨w :: rest⟩ := by
  obtain ⟨words⟩ := s
  match words with
  | [] => cases h
  | [a] => cases h
  | a :: c :: rest =>
    cases h
    exact ⟨a, rest, rfl, rfl, rfl, fun w => rfl⟩

/-- the words from the `first` number on to the `count`-th, pushed in turn until one does not fit -/
def fill (s : Stack) (first : Nat) : Nat → Option Fault × Stack
  | 0 => (none, s)
  | n + 1 =>
    match s.push (BitVec.ofNat 256 first) with
    | .ok s' => fill s' (first + 1) n
    | .error e => (some e, s)

/-- the words in brackets, top first -/
def text (s : Stack) : String := "[" ++ ", ".intercalate (s.words.map Word.toHex) ++ "]"

end Stack

end GasMachine
