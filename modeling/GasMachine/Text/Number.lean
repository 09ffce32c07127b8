/-
Numbers with fraction and exponent, as text: an optional sign, then digits with a point among them or without, at least
one of them, and an optional exponent of one or more digits; or a sign and one of the words for what is no finite number,
in any case.
-/
namespace GasMachine.Text.Number

/-- the text without one leading sign -/
def dropSign : List Char → List Char
  | '+' :: cs => cs
  | '-' :: cs => cs
  | cs => cs

/-- whether a text is nothing, or an exponent -/
def isExponent : List Char → Bool
  | [] => true
  | c :: cs => (c == 'e' || c == 'E') && !(dropSign cs).isEmpty && (dropSign cs).all Char.isDigit

/-- whether a text is digits with a point among them or without, and maybe an exponent -/
def isUnsigned (cs : List Char) : Bool :=
  let whole := cs.takeWhile Char.isDigit
  match cs.drop whole.length with
  | '.' :: rest =>
    let fraction := rest.takeWhile Char.isDigit
    !(whole.isEmpty && fraction.isEmpty) && isExponent (rest.drop fraction.length)
  | rest => !whole.isEmpty && isExponent rest

/-- the words for what is no finite number -/
def words : List String := ["inf", "infinity", "nan"]

/-- whether a text denotes a number -/
def isNumber (cs : List Char) : Bool :=
  let body := dropSign cs
  words.contains (String.ofList (body.map Char.toLower)) || isUnsigned body

end GasMachine.Text.Number
