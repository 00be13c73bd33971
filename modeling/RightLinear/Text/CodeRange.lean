/-! Ranges of code points, the material of the character tables. -/

namespace RightLinear.Text

def inRanges (ranges : List (Nat × Nat)) (character : Char) : Bool :=
  ranges.any fun (low, high) =>
    decide (low ≤ character.toNat) && decide (character.toNat ≤ high)

/-- Every `step`-th code point from `low` up to `high`. -/
structure SteppedRange where
  low : Nat
  high : Nat
  step : Nat

def SteppedRange.contains (range : SteppedRange) (character : Char) : Bool :=
  decide (range.low ≤ character.toNat) &&
    decide (character.toNat ≤ range.high) &&
      (character.toNat - range.low) % range.step == 0

end RightLinear.Text
