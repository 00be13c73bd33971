/-! Hexadecimal digits of a fixed least width. -/

namespace RightLinear.Text

/-- The digits of `value`, zeros in front up to `width`. -/
def hexDigits (width value : Nat) : List Char :=
  let digits := Nat.toDigits 16 value
  List.replicate (width - digits.length) '0' ++ digits

end RightLinear.Text
