/-!
# Ranges of code points

A character property is given as an array of closed intervals of code points.
-/

namespace FlowBoard.Text

abbrev Ranges := Array (Nat × Nat)

def Ranges.has (ranges : Ranges) (c : Char) : Bool :=
  ranges.any fun r => r.1 ≤ c.toNat && c.toNat ≤ r.2

end FlowBoard.Text
