import GasMachine.Text.Blank
/-
Forks: the named versions of the instruction set. There is one, Moon. A fork is named by its text up to ASCII case and
blanks at the ends.
-/
namespace GasMachine

/-- a version of the instruction set -/
inductive Fork where
  | moon
deriving DecidableEq, Repr

/-- a text that names no fork, as it was given -/
structure UnknownFork where
  name : String
deriving DecidableEq, Repr

/-- the sentence that reports an unknown fork -/
def UnknownFork.message (u : UnknownFork) : String := "unknown fork: " ++ u.name

namespace Fork

/-- every fork -/
def all : List Fork := [moon]

/-- the name of a fork -/
def name : Fork → String
  | moon => "Moon"

/-- the name in lower case, as settings keep it -/
def key (f : Fork) : String := String.ofList (f.name.toList.map Char.toLower)

/-- equality of texts up to ASCII case -/
def sameText (a b : List Char) : Bool := a.map Char.toLower == b.map Char.toLower

/-- the fork a text names -/
def ofName (s : String) : Except UnknownFork Fork :=
  match all.find? (fun f => sameText f.name.toList (Text.trim s.toList)) with
  | some f => .ok f
  | none => .error ⟨s⟩

end Fork

end GasMachine
