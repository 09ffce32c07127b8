import GasMachine.Text.Alphabetic
import GasMachine.Text.Numeric
/-
Alphanumeric characters: the alphabetic and the numeric ones.
-/
namespace GasMachine.Text

/-- whether a character is alphabetic or a number -/
def isAlphanumeric (c : Char) : Bool := isAlphabetic c || isNumeric c

end GasMachine.Text
