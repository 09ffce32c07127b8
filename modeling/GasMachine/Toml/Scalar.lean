import GasMachine.Toml.Item
import GasMachine.Text.Split
/-
Scalars without quotes: integers, floats, booleans, dates and times.

Each is a whole run of characters up to a blank, a line end or a mark that ends a value. Integers are kept and must fit
in 64 bits with sign; decimal ones may have a sign and no leading zero, and those in base 16, 8 or 2 have neither.
Underscores stand between digits. A float must not round to positive infinity. A date has a month up to 12 and a day up
to 31, whatever the month.
-/
namespace GasMachine.Toml.Scalar

/-- the value of a digit in bases up to 16 -/
def digitValue? (base : Nat) (c : Char) : Option Nat :=
  let v := if '0' ≤ c ∧ c ≤ '9' then c.toNat - 48
    else if 'a' ≤ c ∧ c ≤ 'f' then c.toNat - 87
    else if 'A' ≤ c ∧ c ≤ 'F' then c.toNat - 55
    else 16
  if v < base then some v else none

/-- whether a character is a decimal digit -/
def isDigit (c : Char) : Bool := (digitValue? 10 c).isSome

/-- the digits of a number in which single underscores may stand between digits -/
def digits? (base : Nat) (cs : List Char) : Option (List Char) :=
  let pieces := Text.split '_' cs
  if pieces.all (fun p => !p.isEmpty && p.all fun c => (digitValue? base c).isSome) then some pieces.flatten else none

/-- the value of digits -/
def valueOf (base : Nat) (ds : List Char) : Nat := ds.foldl (fun n c => base * n + (digitValue? base c).getD 0) 0

/-- an optional sign, as whether it is negative, and what follows it -/
def sign : List Char → Bool × List Char
  | '+' :: cs => (false, cs)
  | '-' :: cs => (true, cs)
  | cs => (false, cs)

/-- decimal digits without a leading zero -/
def wholeDigits? (cs : List Char) : Option (List Char) :=
  match digits? 10 cs with
  | some ('0' :: _ :: _) => none
  | ds => ds

/-- an integer in the range of 64 bits with sign -/
def inRange (n : Int) : Option Int := if Int64.minValue.toInt ≤ n ∧ n ≤ Int64.maxValue.toInt then some n else none

/-- an integer -/
def integer? (cs : List Char) : Option Int :=
  match cs with
  | '0' :: 'x' :: rest => (digits? 16 rest).bind fun ds => inRange (valueOf 16 ds)
  | '0' :: 'o' :: rest => (digits? 8 rest).bind fun ds => inRange (valueOf 8 ds)
  | '0' :: 'b' :: rest => (digits? 2 rest).bind fun ds => inRange (valueOf 2 ds)
  | _ =>
    let (negative, rest) := sign cs
    (wholeDigits? rest).bind fun ds => inRange (if negative then -(valueOf 10 ds : Int) else valueOf 10 ds)

/-- whether `m * 10 ^ e` rounds to a finite double -/
def isFinite (m : Nat) (e : Int) : Bool :=
  let length : Int := (Nat.toDigits 10 m).length
  let bound : Nat := Nat.pow 2 1024 - Nat.pow 2 970
  if m = 0 ∨ length + e < 308 then true
  else if 310 < length + e then false
  else match e with
    | .ofNat k => m * Nat.pow 10 k < bound
    | .negSucc k => m < bound * Nat.pow 10 (k + 1)

/-- the fraction after a whole part: nothing, or a point and digits -/
def fraction? : List Char → Option (List Char)
  | [] => some []
  | '.' :: ds => digits? 10 ds
  | _ => none

/-- whether an exponent is well formed, and its value -/
def exponent? (cs : List Char) : Option Int :=
  let (negative, rest) := sign cs
  (digits? 10 rest).map fun ds => if negative then -(valueOf 10 ds : Int) else valueOf 10 ds

/-- whether a run of characters is a float in decimal notation -/
def isDecimalFloat (cs : List Char) : Bool :=
  let (negative, body) := sign cs
  let mantissa := body.takeWhile fun c => c != 'e' && c != 'E'
  let marked := body.drop mantissa.length
  let whole := mantissa.takeWhile (· != '.')
  let rest := mantissa.drop whole.length
  let exponent := match marked with
    | [] => some 0
    | _ :: ds => exponent? ds
  match wholeDigits? whole, fraction? rest, exponent with
  | some ws, some fs, some e =>
    (!rest.isEmpty || !marked.isEmpty) &&
      (negative || isFinite (valueOf 10 (ws ++ fs)) (e - (fs.length : Int)))
  | _, _, _ => false

/-- whether a run of characters is a float -/
def isFloat (cs : List Char) : Bool :=
  let body := (sign cs).2
  body = ['i', 'n', 'f'] || body = ['n', 'a', 'n'] || isDecimalFloat cs

/-- a number of exactly `n` digits between two bounds, and what follows it -/
def field? (n low high : Nat) (cs : List Char) : Option (Nat × List Char) :=
  let ds := cs.take n
  let v := valueOf 10 ds
  if ds.length = n ∧ ds.all isDigit ∧ low ≤ v ∧ v ≤ high then some (v, cs.drop n) else none

/-- what follows a given character -/
def after? (c : Char) : List Char → Option (List Char)
  | d :: cs => if d = c then some cs else none
  | [] => none

/-- what follows a date -/
def date? (cs : List Char) : Option (List Char) := do
  let (_, cs) ← field? 4 0 9999 cs
  let cs ← after? '-' cs
  let (_, cs) ← field? 2 1 12 cs
  let cs ← after? '-' cs
  let (_, cs) ← field? 2 1 31 cs
  return cs

/-- what follows a fraction of a second, if there is one -/
def secondFraction? : List Char → Option (List Char)
  | '.' :: cs => if (cs.takeWhile isDigit).isEmpty then none else some (cs.dropWhile isDigit)
  | cs => some cs

/-- what follows a time of day -/
def time? (cs : List Char) : Option (List Char) := do
  let (_, cs) ← field? 2 0 23 cs
  let cs ← after? ':' cs
  let (_, cs) ← field? 2 0 59 cs
  let cs ← after? ':' cs
  let (_, cs) ← field? 2 0 60 cs
  secondFraction? cs

/-- whether a run of characters is an offset from universal time, or nothing -/
def isOffset (cs : List Char) : Bool :=
  match cs with
  | [] => true
  | ['Z'] | ['z'] => true
  | c :: rest =>
    (c == '+' || c == '-') &&
      (do let (_, cs) ← field? 2 0 23 rest
          let cs ← after? ':' cs
          let (_, cs) ← field? 2 0 59 cs
          return cs.isEmpty : Option Bool).getD false

/-- whether a run of characters is a time of day with an offset or none -/
def isTimeWithOffset (cs : List Char) : Bool :=
  match time? cs with
  | some rest => isOffset rest
  | none => false

/-- whether a run of characters is a date alone -/
def isDate (cs : List Char) : Bool := date? cs == some []

/-- whether a run of characters is a date with a time, or a time -/
def isDateTime (cs : List Char) : Bool :=
  match date? cs with
  | some (c :: rest) => (c == 'T' || c == 't') && isTimeWithOffset rest
  | some [] => true
  | none => time? cs == some []

/-- whether a character ends a scalar -/
def isEnd (c : Char) : Bool :=
  c == ' ' || c == '\t' || c == '\n' || c == '\r' || c == '#' || c == ',' || c == ']' || c == '\x7d'

/-- the item that a run of characters denotes -/
def classify (cs : List Char) : Option Item :=
  if cs = ['t', 'r', 'u', 'e'] ∨ cs = ['f', 'a', 'l', 's', 'e'] then some .skipped
  else match integer? cs with
    | some n => some (.integer n)
    | none => if isFloat cs || isDateTime cs then some .skipped else none

/-- a scalar and what follows it; a date and a time may have one blank between them -/
def read (cs : List Char) : Option (Item × List Char) :=
  let token := cs.takeWhile fun c => !isEnd c
  let rest := cs.drop token.length
  match rest with
  | ' ' :: more =>
    let next := more.takeWhile fun c => !isEnd c
    if isDate token && !next.isEmpty then
      if isTimeWithOffset next then some (.skipped, more.drop next.length) else none
    else (classify token).map (·, rest)
  | _ => (classify token).map (·, rest)

end GasMachine.Toml.Scalar
