/-! Sets of characters given as ascending ranges of code points, both ends included. -/
namespace RestScaffold.Text

abbrev Ranges := List (Nat × Nat)

def Ranges.contains (ranges : Ranges) (c : Char) : Bool :=
  ranges.any fun r => r.1 ≤ c.toNat && c.toNat ≤ r.2

end RestScaffold.Text
