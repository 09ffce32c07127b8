/-
Patterns as they are written: literals, classes, looks, repetitions, groups, sequences and choices.

Only what decides whether a pattern can be used is kept: which letters a group turns on or off, whether a literal was
written as a byte, what is negated. `depth` is how deep a pattern nests. A sequence or a choice of one counts as that
one, so neither is ever built of one.
-/
namespace GasMachine.Pattern

/-- a mode that a letter turns on or off -/
inductive Mode where
  | ignoreCase
  | multiLine
  | dotAll
  | swapGreed
  | unicode
  | carriageReturn
  | verbose
deriving DecidableEq, Repr

/-- the mode of a letter -/
def Mode.ofLetter? (c : Char) : Option Mode :=
  if c = 'i' then some ignoreCase
  else if c = 'm' then some multiLine
  else if c = 's' then some dotAll
  else if c = 'U' then some swapGreed
  else if c = 'u' then some unicode
  else if c = 'R' then some carriageReturn
  else if c = 'x' then some verbose
  else none

/-- modes with whether each is turned on -/
abbrev ModeSettings := List (Mode × Bool)

/-- what settings say of a mode, `none` if nothing -/
def ModeSettings.get? (s : ModeSettings) (m : Mode) : Option Bool := (s.find? fun e => e.1 == m).map Prod.snd

mutual

/-- one item of a class -/
inductive ClassItem where
  | literal (c : Char)
  | range (first last : Char)
  /-- a class by its name in ASCII, such as `[:alpha:]` -/
  | named (negated : Bool)
  /-- digits, blanks or word characters -/
  | kind (negated : Bool)
  | nested (negated : Bool) (set : ClassSet)

/-- the characters of a class -/
inductive ClassSet where
  | union (items : List ClassItem)
  /-- an intersection or a difference -/
  | operation (left right : ClassSet)

end

/-- a pattern -/
inductive Expr where
  /-- modes turned on or off for the rest of the group -/
  | setting (modes : ModeSettings)
  | literal (c : Char) (asByte : Bool)
  | dot
  /-- a look for the start or the end of a line or a text -/
  | edge
  /-- a look for the edge of a word -/
  | wordEdge
  /-- digits, blanks or word characters -/
  | kind (negated : Bool)
  | charClass (negated : Bool) (set : ClassSet)
  | repeated (e : Expr)
  | group (modes : ModeSettings) (e : Expr)
  | sequence (es : List Expr)
  | choice (es : List Expr)

namespace Expr

/-- a sequence of items -/
def ofItems : List Expr → Expr
  | [e] => e
  | es => .sequence es

/-- a choice among alternatives -/
def ofAlternatives : List Expr → Expr
  | [e] => e
  | es => .choice es

end Expr

mutual

/-- how deep an item nests -/
def ClassItem.depth : ClassItem → Nat
  | .nested _ set => 1 + set.depth
  | _ => 0

/-- how deep the characters of a class nest -/
def ClassSet.depth : ClassSet → Nat
  | .union [item] => item.depth
  | .union items => if items.isEmpty then 0 else 1 + itemsDepth items
  | .operation left right => 1 + max left.depth right.depth

/-- how deep the deepest of some items nests -/
def itemsDepth : List ClassItem → Nat
  | [] => 0
  | item :: rest => max item.depth (itemsDepth rest)

end

mutual

/-- how deep a pattern nests -/
def Expr.depth : Expr → Nat
  | .charClass _ set => 1 + set.depth
  | .repeated e => 1 + e.depth
  | .group _ e => 1 + e.depth
  | .sequence es => if es.isEmpty then 0 else 1 + exprsDepth es
  | .choice es => 1 + exprsDepth es
  | _ => 0

/-- how deep the deepest of some patterns nests -/
def exprsDepth : List Expr → Nat
  | [] => 0
  | e :: rest => max e.depth (exprsDepth rest)

end

end GasMachine.Pattern
