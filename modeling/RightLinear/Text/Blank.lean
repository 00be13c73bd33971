import RightLinear.Text.CodeRange

/-! Blank characters: Unicode white space and the information separators
U+001C to U+001F. -/

namespace RightLinear.Text

def blankRanges : List (Nat × Nat) :=
  [(0x9, 0xD), (0x1C, 0x20), (0x85, 0x85), (0xA0, 0xA0), (0x1680, 0x1680),
    (0x2000, 0x200A), (0x2028, 0x2029), (0x202F, 0x202F), (0x205F, 0x205F),
    (0x3000, 0x3000)]

def isBlank (character : Char) : Bool :=
  inRanges blankRanges character

/-- From the exclamation mark to the tilde there are no blanks. -/
theorem isBlank_eq_false {character : Char} (hlow : 0x20 < character.toNat)
    (hhigh : character.toNat < 0x85) : isBlank character = false := by
  simp only [isBlank, inRanges, blankRanges, List.any_cons, List.any_nil,
    Bool.or_eq_false_iff, Bool.and_eq_false_iff, decide_eq_false_iff_not,
    and_true]
  omega

/-- There are no blanks in a range that lies apart from all of theirs. -/
theorem isBlank_of_apart {low high : Nat}
    (hapart : (blankRanges.all fun blanks =>
      Nat.blt high blanks.1 || Nat.blt blanks.2 low) = true)
    {character : Char} (hlow : low ≤ character.toNat)
    (hhigh : character.toNat ≤ high) : isBlank character = false := by
  rw [isBlank, inRanges, List.any_eq_false]
  intro blanks hblanks
  have hside := List.all_eq_true.mp hapart blanks hblanks
  rw [Bool.or_eq_true, Nat.blt_eq, Nat.blt_eq] at hside
  rw [Bool.and_eq_true, decide_eq_true_eq, decide_eq_true_eq]
  omega

end RightLinear.Text
