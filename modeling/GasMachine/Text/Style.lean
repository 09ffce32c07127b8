/-
Styled text: a text between the escape sequence that turns a style on and the one that turns all styles off.
-/
namespace GasMachine.Text

/-- the parameters of the escape sequence of a style -/
structure Style where
  codes : String
deriving DecidableEq, Repr

namespace Style

/-- red and bold -/
def alarm : Style := ⟨"1;31"⟩

/-- dimmed -/
def dim : Style := ⟨"2"⟩

/-- in italics -/
def italic : Style := ⟨"3"⟩

/-- the text in this style, or as it is where styles are off -/
def paint (style : Style) (on : Bool) (text : String) : String :=
  if on then "\x1b[" ++ style.codes ++ "m" ++ text ++ "\x1b[0m" else text

end Style

end GasMachine.Text
