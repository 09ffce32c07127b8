import GasMachine.Pattern.Reader
/-
Whether a pattern can be used.

There are no tables of Unicode to match with. In Unicode mode, which is on at first, digits, blanks and word characters are
therefore refused, and so is anything that would have to be matched without regard to case. Outside of it a pattern must
match whole characters, which a dot, a negated class and a byte beyond ASCII do not. A look for the edge of a word is
refused in Unicode mode, and reported apart if nothing else is wrong. Modes hold from where they are set to the end of the
group around them, across its alternatives.
-/
namespace GasMachine.Pattern

/-- why a pattern cannot be used -/
inductive Defect where
  /-- it cannot be read, or asks for what cannot be matched -/
  | unusable
  /-- it looks for the edge of a word in Unicode mode -/
  | unicodeWordEdge
deriving DecidableEq, Repr

/-- the sentence that reports a defect -/
def Defect.message : Defect → String
  | unusable => "error building NFA"
  | unicodeWordEdge => "unsupported regex feature for DFAs: cannot build DFAs for regexes with Unicode word boundaries; " ++
      "switch to ASCII word boundaries, or heuristically enable Unicode word boundaries or use a different regex engine"

/-- the modes that decide what can be matched -/
structure Modes where
  ignoreCase : Bool
  unicode : Bool
deriving DecidableEq, Repr

/-- the modes at the start of a pattern -/
def Modes.initial : Modes := { ignoreCase := false, unicode := true }

/-- the modes after settings -/
def Modes.apply (m : Modes) (s : ModeSettings) : Modes :=
  { ignoreCase := (s.get? .ignoreCase).getD m.ignoreCase, unicode := (s.get? .unicode).getD m.unicode }

/-- whether a character is in ASCII -/
def isAscii (c : Char) : Bool := c.toNat < 128

mutual

/-- whether an item of a class can be matched -/
def ClassItem.isUsable (m : Modes) : ClassItem → Bool
  | .literal c => if m.unicode then !m.ignoreCase else isAscii c
  | .range first last => if m.unicode then !m.ignoreCase else isAscii first && isAscii last
  | .named negated => if m.unicode then !m.ignoreCase else !negated
  | .kind negated => !m.unicode && !negated
  | .nested negated set => (m.unicode || !negated) && set.isUsable m

/-- whether the characters of a class can be matched -/
def ClassSet.isUsable (m : Modes) : ClassSet → Bool
  | .union items => itemsUsable m items
  | .operation left right => left.isUsable m && right.isUsable m

/-- whether all of some items can be matched -/
def itemsUsable (m : Modes) : List ClassItem → Bool
  | [] => true
  | item :: rest => item.isUsable m && itemsUsable m rest

end

mutual

/-- the modes after a pattern, and whether it looks for the edge of a word in Unicode mode; `none` if it asks for what cannot
be matched -/
def Expr.check (m : Modes) : Expr → Option (Modes × Bool)
  | .setting modes => some (m.apply modes, false)
  | .literal c asByte =>
    if (if m.unicode then m.ignoreCase else asByte && !isAscii c) then none else some (m, false)
  | .dot => if m.unicode then some (m, false) else none
  | .edge => some (m, false)
  | .wordEdge => some (m, m.unicode)
  | .kind negated => if !m.unicode && !negated then some (m, false) else none
  | .charClass negated set => if (m.unicode || !negated) && set.isUsable m then some (m, false) else none
  | .repeated e => e.check m
  | .group modes e => (e.check (m.apply modes)).map fun r => (m, r.2)
  | .sequence es => checkAll m es
  | .choice es => checkAll m es

/-- the modes after some patterns in turn, and whether one of them looks for the edge of a word in Unicode mode -/
def checkAll (m : Modes) : List Expr → Option (Modes × Bool)
  | [] => some (m, false)
  | e :: rest =>
    match e.check m with
    | none => none
    | some (m', found) => (checkAll m' rest).map fun r => (r.1, found || r.2)

end

/-- why a text cannot be used as a pattern, `none` if it can -/
def defect? (cs : List Char) : Option Defect :=
  match (read cs).bind (Expr.check .initial) with
  | none => some .unusable
  | some (_, found) => if found then some .unicodeWordEdge else none

end GasMachine.Pattern
