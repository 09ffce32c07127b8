import GasMachine.Pattern.Expr
import GasMachine.Text.Alphanumeric
import GasMachine.Text.Blank
/-
Reading patterns.

Characters stand for themselves, apart from those with a meaning: backslash, dot, the looks for an edge, brackets,
parentheses, the bar and the three signs of repetition. In verbose mode blanks and comments are skipped between parts. A
count in braces, a reference to a group, a class of Unicode and a look around are not read. Each reader gives what it read
and what follows, and `none` if the text is no pattern. Readers that nest count down a bound; one more than the length of
the text is enough of it, since each call uses up a character.
-/
namespace GasMachine.Pattern

open Text (isBlank)

/-! ## Verbose mode -/

/-- the text without leading blanks and comments -/
def skipComments (inComment : Bool) : List Char → List Char
  | [] => []
  | c :: cs =>
    if inComment then skipComments (c != '\n') cs
    else if isBlank c then skipComments false cs
    else if c = '#' then skipComments true cs
    else c :: cs

/-- the text behind what verbose mode skips -/
def skip (verbose : Bool) (cs : List Char) : List Char := if verbose then skipComments false cs else cs

/-- the next character that counts behind a dash: in verbose mode blanks and one comment sign are passed over, unless nothing
else follows -/
def peek (verbose : Bool) (cs : List Char) : Option Char :=
  if verbose then
    match cs.dropWhile isBlank with
    | '#' :: rest => ((rest.dropWhile isBlank).head?).or cs.head?
    | rest => rest.head?.or cs.head?
  else cs.head?

/-! ## Escapes -/

/-- what a backslash and what follows it denote -/
inductive Escaped where
  | literal (c : Char) (asByte : Bool)
  | kind (negated : Bool)
  | edge
  | wordEdge

/-- the value of a hexadecimal digit -/
def hexDigit? (c : Char) : Option Nat :=
  if '0' ≤ c ∧ c ≤ '9' then some (c.toNat - 48)
  else if 'a' ≤ c ∧ c ≤ 'f' then some (c.toNat - 87)
  else if 'A' ≤ c ∧ c ≤ 'F' then some (c.toNat - 55)
  else none

/-- so many hexadecimal digits, as the value after the one so far, and what follows them -/
def hexDigits (verbose : Bool) (value : Nat) : Nat → List Char → Option (Nat × List Char)
  | 0, cs => some (value, cs)
  | n + 1, cs =>
    match skip verbose cs with
    | [] => none
    | c :: rest => (hexDigit? c).bind fun d => hexDigits verbose (16 * value + d) n rest

/-- the character with the code point of so many hexadecimal digits -/
def codePoint (verbose asByte : Bool) (n : Nat) (cs : List Char) : Option (Escaped × List Char) :=
  match hexDigits verbose 0 n cs with
  | some (value, rest) => if value.isValidChar then some (.literal (Char.ofNat value) asByte, rest) else none
  | none => none

/-- a character that a letter behind a backslash denotes -/
def letterEscape? (c : Char) : Option Char :=
  if c = 'a' then some '\x07'
  else if c = 'f' then some '\x0c'
  else if c = 't' then some '\t'
  else if c = 'n' then some '\n'
  else if c = 'r' then some '\r'
  else if c = 'v' then some '\x0b'
  else none

/-- whether a backslash before a character makes it stand for itself -/
def isEscapable (c : Char) : Bool := c.toNat < 128 && !c.isAlphanum && c != '<' && c != '>'

/-- what follows a backslash -/
def escape (verbose : Bool) : List Char → Option (Escaped × List Char)
  | [] => none
  | c :: cs =>
    if c = 'x' then codePoint verbose true 2 cs
    else if c = 'u' then codePoint verbose false 4 cs
    else if c = 'U' then codePoint verbose false 8 cs
    else if c = 'd' ∨ c = 's' ∨ c = 'w' then some (.kind false, cs)
    else if c = 'D' ∨ c = 'S' ∨ c = 'W' then some (.kind true, cs)
    else if c = 'A' ∨ c = 'z' then some (.edge, cs)
    else if c = 'b' ∨ c = 'B' ∨ c = '<' ∨ c = '>' then some (.wordEdge, cs)
    else match letterEscape? c with
      | some d => some (.literal d false, cs)
      | none => if isEscapable c then some (.literal c false, cs) else none

/-! ## Classes -/

/-- the names of classes -/
def classNames : List String :=
  ["alnum", "alpha", "ascii", "blank", "cntrl", "digit", "graph", "lower", "print", "punct", "space", "upper", "word",
   "xdigit"]

/-- a class by its name, from behind its first bracket, as whether it is negated, and what follows it -/
def named? : List Char → Option (Bool × List Char)
  | ':' :: cs =>
    let (negated, body) := match cs with
      | '^' :: rest => (true, rest)
      | _ => (false, cs)
    let name := body.takeWhile (· != ':')
    match body.drop name.length with
    | ':' :: ']' :: rest => if classNames.contains (String.ofList name) then some (negated, rest) else none
    | _ => none
  | _ => none

/-- dashes at the start of a class, each with a literal, and what follows them; nothing may be left open -/
def leadingDashes (verbose : Bool) : Nat → List ClassItem → List Char → Option (List ClassItem × List Char)
  | 0, _, _ => none
  | fuel + 1, items, cs =>
    match cs with
    | [] => none
    | '-' :: rest => leadingDashes verbose fuel (.literal '-' :: items) (skip verbose rest)
    | _ => some (items, cs)

/-- the start of a class from behind its bracket: whether it is negated, its first items, last one first, and what
follows them -/
def openClass (verbose : Bool) (cs : List Char) : Option (Bool × List ClassItem × List Char) :=
  let (negated, body) := match skip verbose cs with
    | '^' :: rest => (true, skip verbose rest)
    | rest => (false, rest)
  match leadingDashes verbose (body.length + 1) [] body with
  | none => none
  | some ([], ']' :: rest) =>
    match skip verbose rest with
    | [] => none
    | rest' => some (negated, [.literal ']'], rest')
  | some (items, rest) => some (negated, items, rest)

/-- one character or kind of characters in a class, and what follows it -/
def classAtom (verbose : Bool) : List Char → Option (Escaped × List Char)
  | [] => none
  | c :: cs => if c = '\\' then escape verbose cs else some (.literal c false, cs)

/-- an atom as an item of a class; a look is none -/
def Escaped.toItem : Escaped → Option ClassItem
  | .literal c _ => some (.literal c)
  | .kind negated => some (.kind negated)
  | .edge => none
  | .wordEdge => none

/-- the item from one atom up to another, which must be literals in order -/
def rangeItem : Escaped → Escaped → Option ClassItem
  | .literal first _, .literal last _ => if first ≤ last then some (.range first last) else none
  | _, _ => none

/-- an atom or a range of a class, and what follows it -/
def classRange (verbose : Bool) (cs : List Char) : Option (ClassItem × List Char) :=
  match classAtom verbose cs with
  | none => none
  | some (atom, rest) =>
    match skip verbose rest with
    | [] => none
    | '-' :: more =>
      if peek verbose more = some ']' ∨ peek verbose more = some '-' then atom.toItem.map (·, '-' :: more)
      else match classAtom verbose (skip verbose more) with
        | none => none
        | some (atom', rest') => (rangeItem atom atom').map (·, rest')
    | rest' => atom.toItem.map (·, rest')

/-- the characters of a class, from what stands before the last operation and the items since, last one first -/
def closeSet (left : Option ClassSet) (items : List ClassItem) : ClassSet :=
  match left with
  | none => .union items.reverse
  | some set => .operation set (.union items.reverse)

/-- whether two characters are an operation on classes -/
def isOperation (c d : Char) : Bool := c == d && (c == '&' || c == '-' || c == '~')

/-- the rest of a class behind its first items, and what follows the class -/
def classBody (verbose : Bool) : Nat → Option ClassSet → List ClassItem → List Char → Option (ClassSet × List Char)
  | 0, _, _, _ => none
  | fuel + 1, left, items, cs =>
    match skip verbose cs with
    | [] => none
    | ']' :: rest => some (closeSet left items, rest)
    | '[' :: rest =>
      match named? rest with
      | some (negated, rest') => classBody verbose fuel left (.named negated :: items) rest'
      | none =>
        match openClass verbose rest with
        | none => none
        | some (negated, first, rest') =>
          match classBody verbose fuel none first rest' with
          | none => none
          | some (set, rest'') => classBody verbose fuel left (.nested negated set :: items) rest''
    | c :: d :: rest =>
      if isOperation c d then classBody verbose fuel (some (closeSet left items)) [] rest
      else match classRange verbose (c :: d :: rest) with
        | none => none
        | some (item, rest') => classBody verbose fuel left (item :: items) rest'
    | [_] => none

/-- a class from behind its bracket, and what follows it -/
def charClass (verbose : Bool) (cs : List Char) : Option (Expr × List Char) :=
  match openClass verbose cs with
  | none => none
  | some (negated, first, rest) =>
    (classBody verbose (rest.length + 1) none first rest).map fun r => (.charClass negated r.1, r.2)

/-! ## Groups -/

/-- what an opening parenthesis and what follows it start -/
inductive Opening where
  /-- a setting of modes, already closed -/
  | setting (modes : ModeSettings)
  /-- a group, with its name if it has one -/
  | group (modes : ModeSettings) (name : Option (List Char))

/-- whether a character may stand in the name of a group -/
def isNameChar (first : Bool) (c : Char) : Bool :=
  if first then c == '_' || Text.isAlphabetic c
  else c == '_' || c == '.' || c == '[' || c == ']' || Text.isAlphanumeric c

/-- the name of a group up to the angle bracket behind it, and what follows that -/
def groupName (first : Bool) : List Char → Option (List Char × List Char)
  | [] => none
  | c :: cs =>
    if c = '>' then some ([], cs)
    else if isNameChar first c then (groupName false cs).map fun r => (c :: r.1, r.2)
    else none

/-- letters of modes up to a colon or a parenthesis, with the settings so far, whether they are being turned on, and whether
the sign that turns them off is the last thing read; gives the settings and what follows them -/
def modeLetters (settings : ModeSettings) (on fresh : Bool) : List Char → Option (ModeSettings × List Char)
  | [] => none
  | c :: cs =>
    if c = ':' ∨ c = ')' then (if !on && fresh then none else some (settings.reverse, c :: cs))
    else if c = '-' then (if on then modeLetters settings false true cs else none)
    else match Mode.ofLetter? c with
      | none => none
      | some m => if (settings.get? m).isSome then none else modeLetters ((m, on) :: settings) on false cs

/-- what stands behind an opening parenthesis and a question mark -/
def openSpecial : List Char → Option (Opening × List Char)
  | '=' :: _ | '!' :: _ | '<' :: '=' :: _ | '<' :: '!' :: _ => none
  | '<' :: cs | 'P' :: '<' :: cs =>
    match groupName true cs with
    | some (name, rest) => if name.isEmpty then none else some (.group [] (some name), rest)
    | none => none
  | cs =>
    match modeLetters [] true false cs with
    | some (modes, ':' :: rest) => some (.group modes none, rest)
    | some (modes, ')' :: rest) => if modes.isEmpty then none else some (.setting modes, rest)
    | _ => none

/-- what stands behind an opening parenthesis -/
def openGroup (verbose : Bool) (cs : List Char) : Option (Opening × List Char) :=
  match skip verbose cs with
  | '?' :: rest => openSpecial rest
  | rest => some (.group [] none, rest)

/-! ## Patterns -/

/-- where the reader is: the text ahead, whether it is in verbose mode, and the names of groups so far -/
structure Ahead where
  text : List Char
  verbose : Bool
  names : List (List Char)

/-- whether a pattern is a mere setting, which cannot be repeated -/
def Expr.isSetting : Expr → Bool
  | .setting _ => true
  | _ => false

/-- the text behind a sign that makes a repetition a lazy one -/
def dropLazy : List Char → List Char
  | '?' :: cs => cs
  | cs => cs

/-- what an escape is outside a class -/
def Escaped.toExpr : Escaped → Expr
  | .literal c asByte => .literal c asByte
  | .kind negated => .kind negated
  | .edge => .edge
  | .wordEdge => .wordEdge

/-- a part without a structure of its own, which starts with `c`, and what follows it -/
def simplePart (verbose : Bool) (c : Char) (cs : List Char) : Option (Expr × List Char) :=
  if c = '\\' then (escape verbose cs).map fun r => (r.1.toExpr, r.2)
  else if c = '.' then some (.dot, cs)
  else if c = '^' ∨ c = '$' then some (.edge, cs)
  else some (.literal c false, cs)

/-- the names of groups after one more group; refused if its name is taken -/
def addName (names : List (List Char)) : Option (List Char) → Option (List (List Char))
  | none => some names
  | some name => if names.contains name then none else some (name :: names)

/-- the pattern of alternatives and of the items of the last one, each last one first -/
def conclude (alternatives items : List Expr) : Expr :=
  Expr.ofAlternatives ((Expr.ofItems items.reverse :: alternatives).reverse)

/-- a pattern up to a closing parenthesis or the end, after the alternatives and the items so far, each last one first, and
where the reader is then -/
def body : Nat → List Expr → List Expr → Ahead → Option (Expr × Ahead)
  | 0, _, _, _ => none
  | fuel + 1, alternatives, items, a =>
    match skip a.verbose a.text with
    | [] => some (conclude alternatives items, { a with text := [] })
    | c :: cs =>
      if c = ')' then some (conclude alternatives items, { a with text := c :: cs })
      else if c = '|' then body fuel (Expr.ofItems items.reverse :: alternatives) [] { a with text := cs }
      else if c = '(' then
        match openGroup a.verbose cs with
        | none => none
        | some (.setting modes, rest) =>
          body fuel alternatives (.setting modes :: items)
            { a with text := rest, verbose := (modes.get? .verbose).getD a.verbose }
        | some (.group modes name, rest) =>
          match addName a.names name with
          | none => none
          | some names =>
            match body fuel [] [] ⟨rest, (modes.get? .verbose).getD a.verbose, names⟩ with
            | some (e, ⟨')' :: rest', _, names'⟩) =>
              body fuel alternatives (.group modes e :: items) ⟨rest', a.verbose, names'⟩
            | _ => none
      else if c = '[' then
        match charClass a.verbose cs with
        | none => none
        | some (e, rest) => body fuel alternatives (e :: items) { a with text := rest }
      else if c = '*' ∨ c = '+' ∨ c = '?' then
        match items with
        | [] => none
        | e :: before =>
          if e.isSetting then none
          else body fuel alternatives (.repeated e :: before) { a with text := dropLazy cs }
      else if c = '\x7b' then none
      else match simplePart a.verbose c cs with
        | none => none
        | some (e, rest) => body fuel alternatives (e :: items) { a with text := rest }

/-- how deep a pattern may nest -/
def depthLimit : Nat := 250

/-- the pattern that a text denotes -/
def read (cs : List Char) : Option Expr :=
  match body (cs.length + 1) [] [] ⟨cs, false, []⟩ with
  | some (e, ⟨[], _, _⟩) => if e.depth ≤ depthLimit then some e else none
  | _ => none

end GasMachine.Pattern
