import RightLinear.Text.Blank

/-! Cutting texts: at blanks, at single characters, at marks.  All of it works
on lists of characters, on which the properties are inductions. -/

namespace RightLinear.Text

def trimStart (text : List Char) : List Char :=
  text.dropWhile isBlank

def trimEnd (text : List Char) : List Char :=
  (text.reverse.dropWhile isBlank).reverse

def trim (text : List Char) : List Char :=
  trimEnd (trimStart text)

/-- The pieces between the characters that satisfy `separates`, empty pieces
included, so that there is always one piece more than separators. -/
def splitWhere (separates : Char → Bool) : List Char → List (List Char)
  | [] => [[]]
  | character :: rest =>
      if separates character then [] :: splitWhere separates rest
      else
        match splitWhere separates rest with
        | [] => [[character]]
        | piece :: pieces => (character :: piece) :: pieces

def lines (text : List Char) : List (List Char) :=
  splitWhere (· == '\n') text

/-- The maximal runs of characters that are not blank. -/
def words (text : List Char) : List (List Char) :=
  (splitWhere isBlank text).filter (!·.isEmpty)

/-- What follows `lead`, if the text begins with it. -/
def after? (lead text : List Char) : Option (List Char) :=
  if lead.isPrefixOf text then some (text.drop lead.length) else none

/-- Cuts a text at the first occurrence of `mark`. -/
def cut? (mark : List Char) : List Char → Option (List Char × List Char)
  | [] => none
  | character :: rest =>
      if mark.isPrefixOf (character :: rest) then
        some ([], (character :: rest).drop mark.length)
      else
        (cut? mark rest).map fun (before, after) => (character :: before, after)

def contains (mark text : List Char) : Bool :=
  (cut? mark text).isSome

theorem cut?_sound {mark text before after : List Char}
    (hcut : cut? mark text = some (before, after)) :
    text = before ++ mark ++ after := by
  induction text generalizing before with
  | nil => simp [cut?] at hcut
  | cons character rest ih =>
      simp only [cut?] at hcut
      split at hcut
      · next hmark =>
          obtain ⟨tail, htail⟩ := List.isPrefixOf_iff_prefix.mp hmark
          obtain ⟨rfl, rfl⟩ := Prod.mk.inj (Option.some.inj hcut)
          simp [← htail]
      · obtain ⟨⟨later, remainder⟩, hlater, heq⟩ :=
          Option.map_eq_some_iff.mp hcut
        obtain ⟨rfl, rfl⟩ := Prod.mk.inj heq
        simp [ih hlater]

theorem length_lt_of_cut? {mark text before after : List Char}
    (hmark : mark ≠ []) (hcut : cut? mark text = some (before, after)) :
    after.length < text.length := by
  have hlength := congrArg List.length (cut?_sound hcut)
  have hpositive := List.length_pos_iff.mpr hmark
  simp only [List.length_append] at hlength
  omega

/-- The pieces between the occurrences of `mark`, which are taken from the
left and do not overlap.  An empty mark occurs nowhere. -/
def splitOn (mark text : List Char) : List (List Char) :=
  if _ : mark = [] then [text]
  else
    match _ : cut? mark text with
    | none => [text]
    | some (before, after) => before :: splitOn mark after
termination_by text.length
decreasing_by exact length_lt_of_cut? ‹_› ‹_›

def replace (mark substitute text : List Char) : List Char :=
  substitute.intercalate (splitOn mark text)

end RightLinear.Text
