/-
Cutting a text at a separator, and into lines. The pieces between separators, joined by the separator again, are the
text. A line ends with a line feed, or with a carriage return and a line feed; a final end begins no further line.
-/
namespace GasMachine.Text

/-- the pieces of a text between the separators, one more than there are separators -/
def split (sep : Char) : List Char → List (List Char)
  | [] => [[]]
  | c :: cs =>
    if c = sep then [] :: split sep cs
    else match split sep cs with
      | [] => [[c]]
      | p :: ps => (c :: p) :: ps

/-- the text without a carriage return at its end -/
def dropReturn : List Char → List Char
  | [] => []
  | ['\r'] => []
  | c :: cs => c :: dropReturn cs

/-- the lines of a text by its pieces between line feeds: nothing ends the last one, and if it is empty it is none -/
def ofPieces : List (List Char) → List (List Char)
  | [] => []
  | [last] => if last.isEmpty then [] else [last]
  | piece :: pieces => dropReturn piece :: ofPieces pieces

/-- the lines of a text, without their ends -/
def lines (cs : List Char) : List (List Char) := ofPieces (split '\n' cs)

end GasMachine.Text
