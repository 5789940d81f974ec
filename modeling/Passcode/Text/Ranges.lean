/-
  Passcode.Text.Ranges — sets of characters given as sorted, disjoint ranges of code points.
-/

namespace Passcode.Text

/-- Whether `n` lies in one of the ranges. -/
def inRanges (table : Array (Nat × Nat)) (n : Nat) : Bool :=
  table.any fun r => r.1 ≤ n && n ≤ r.2

end Passcode.Text
