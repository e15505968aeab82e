/-!
# Ranges of characters

A class of characters given by a table: closed ranges of their numbers.
-/

namespace TransferGateway.Text

/-- Membership in a list of closed ranges. -/
def inRanges (ranges : List (Nat × Nat)) (n : Nat) : Bool :=
  ranges.any fun r => r.1 ≤ n && n ≤ r.2

end TransferGateway.Text
