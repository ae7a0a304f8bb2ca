/-!
# Ranges of characters
-/

namespace NftExchange.Text

/-- Whether a character lies in one of some closed ranges of code points. -/
def inRanges (ranges : List (Nat × Nat)) (c : Char) : Bool :=
  ranges.any fun (first, last) => first ≤ c.toNat && c.toNat ≤ last

end NftExchange.Text
