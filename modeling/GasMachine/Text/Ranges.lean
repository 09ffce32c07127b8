/-
Sets of code points, written as the first and the last one of each of their ranges, in order.
-/
namespace GasMachine.Text.Ranges

/-- membership in a set given by the ends of its ranges -/
def member : List Nat → Nat → Bool
  | first :: last :: rest, n => (first ≤ n && n ≤ last) || (last < n && member rest n)
  | _, _ => false

end GasMachine.Text.Ranges
