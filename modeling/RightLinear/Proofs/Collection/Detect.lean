import RightLinear.Collection.Detect
import RightLinear.Proofs.Text.Marks

/-! Guessing the kind of a definition.  Only what counts of the lines is looked
at, so blanks around a text do not change the guess. -/

namespace RightLinear.Collection

open Text

/-- The line begins with one of the words that only automata have. -/
def BeginsWithKeyword (line : List Char) : Prop :=
  ∃ keyword ∈ automatonKeywords, keyword <+: line

instance (line : List Char) : Decidable (BeginsWithKeyword line) :=
  inferInstanceAs (Decidable (∃ keyword ∈ automatonKeywords, keyword <+: line))

variable {text line : List Char}

theorem mem_contentLines :
    line ∈ contentLines text ↔
      line ∈ visibleLines text ∧ line.head? ≠ some '#' := by
  simp [contentLines, visibleLines, visible, and_assoc]

theorem contentLines_eq (text : List Char) :
    contentLines text =
      (visibleLines text).filter fun line => line.head? != some '#' := by
  rw [contentLines, visibleLines, visible, List.filter_filter]
  apply List.filter_congr
  intro line _
  rw [Bool.and_comm]

theorem contentLines_trim (text : List Char) :
    contentLines (trim text) = contentLines text := by
  rw [contentLines_eq, contentLines_eq, visibleLines_trim]

theorem mem_trim_iff {character : Char} (hvisible : isBlank character = false) :
    character ∈ trim text ↔ character ∈ text := by
  obtain ⟨lead, trail, hlead, htrail, heq⟩ := exists_trim text
  have hbefore := not_mem_of_blank hvisible hlead
  have hafter := not_mem_of_blank hvisible htrail
  constructor
  · intro hin
    rw [heq]
    exact List.mem_append_left _ (List.mem_append_right _ hin)
  · intro hin
    rw [heq] at hin
    simpa [hbefore, hafter, trim_trim] using hin

theorem looksLikeAutomaton_trim (text : List Char) :
    looksLikeAutomaton (trim text) = looksLikeAutomaton text := by
  have hbar : (trim text).contains '|' = text.contains '|' := by
    rw [Bool.eq_iff_iff, List.contains_iff_mem, List.contains_iff_mem]
    exact mem_trim_iff rfl
  simp only [looksLikeAutomaton, contentLines_trim, hbar,
    @contains_trim "::=".toList (by decide) (visible_of_all rfl)]

/-- A text with a line that says something is not blank. -/
theorem trim_ne_nil_of_mem_contentLines (hline : line ∈ contentLines text) :
    trim text ≠ [] := by
  rw [ne_eq, ← visibleLines_eq_nil_iff]
  exact List.ne_nil_of_mem (mem_contentLines.mp hline).1

theorem looksLikeAutomaton_of_keyword (hline : line ∈ contentLines text)
    (hkeyword : BeginsWithKeyword line) : looksLikeAutomaton text = true := by
  obtain ⟨keyword, hkeyword, hbegins⟩ := hkeyword
  rw [looksLikeAutomaton, if_pos]
  exact List.any_eq_true.mpr ⟨line, hline, List.any_eq_true.mpr
    ⟨keyword, hkeyword, List.isPrefixOf_iff_prefix.mpr hbegins⟩⟩

section Keywordless

variable (hplain : ∀ line ∈ contentLines text, ¬ BeginsWithKeyword line)
include hplain

theorem any_keyword_eq_false :
    (contentLines text).any (fun line =>
      automatonKeywords.any (·.isPrefixOf line)) = false := by
  simp only [List.any_eq_false, List.any_eq_true, not_exists, not_and,
    List.isPrefixOf_iff_prefix]
  exact fun line hline keyword hkeyword hbegins =>
    hplain line hline ⟨keyword, hkeyword, hbegins⟩

theorem looksLikeAutomaton_of_mark
    (hmark : '|' ∈ text ∨ "::=".toList <:+: text) :
    looksLikeAutomaton text = false := by
  rw [← @contains_iff_isInfix _ text (by decide), ← List.contains_iff_mem,
    or_comm, ← Bool.or_eq_true] at hmark
  rw [looksLikeAutomaton, any_keyword_eq_false hplain,
    if_neg Bool.false_ne_true, if_pos hmark]

/-- Lines with arrows are weighed against each other. -/
theorem looksLikeAutomaton_of_arrows
    (hmark : ¬ ('|' ∈ text ∨ "::=".toList <:+: text))
    (harrows : (contentLines text).filter hasArrow ≠ []) :
    looksLikeAutomaton text = decide
      (((contentLines text).filter hasArrow).countP
          (fun line => (arrowParts line).length == 2) <
        ((contentLines text).filter hasArrow).countP
          (fun line => (arrowParts line).length == 3)) := by
  rw [← @contains_iff_isInfix _ text (by decide), ← List.contains_iff_mem,
    or_comm, ← Bool.or_eq_true] at hmark
  rw [looksLikeAutomaton, any_keyword_eq_false hplain,
    if_neg Bool.false_ne_true, if_neg hmark,
    if_neg (by rwa [List.isEmpty_iff])]

end Keywordless

end RightLinear.Collection
