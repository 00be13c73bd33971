import RightLinear.Proofs.Collection.Detect
import RightLinear.Proofs.Grammar.Arrows

/-! The arrows that the guess counts.  It looks at whole lines, so besides the
arrows of productions it meets those in comments and start lines and those that
names make. -/

namespace RightLinear.Collection

open Text Grammar Grammar.Document

/-- The part of the line that does not count for its meaning. -/
def comment (line : List Char) : List Char :=
  line.dropWhile (· != '#')

/-- The arrows of a line of a grammar, by what the line is read as: those of a
start line, or the one of a production and one for each name that makes another,
and those of its comment. -/
def arrowsOf (line : List Char) : Nat :=
  (match Grammar.Document.readLine line with
    | .ok (.start _) => arrowCount (withoutComment line)
    | .ok (.rule rule) =>
        rule.alternatives.flatten.countP Token.endsInHyphen + 1
    | _ => 0) + arrowCount (comment line)

variable {line text : List Char} {rule : Rule}

section Arrows

theorem hasArrow_iff : hasArrow text = true ↔ arrowCount text ≠ 0 := by
  rw [ne_eq, arrowCount_eq_zero_iff, hasArrow, Bool.or_eq_true,
    contains_iff_isInfix (by decide), List.contains_iff_mem, not_and_or,
    not_not, not_not]

/-- The guess counts the parts between the arrows. -/
theorem length_arrowParts (text : List Char) :
    (arrowParts text).length = arrowCount text + 1 := by
  rw [arrowParts, List.length_map]
  exact length_splitOn_replace text

/-- The arrow lines with a given number of arrows, of all lines. -/
theorem countP_arrowLines {number : Nat} (hnumber : number ≠ 0)
    (lines : List (List Char)) :
    (lines.filter hasArrow).countP
        (fun line => (arrowParts line).length == number + 1) =
      lines.countP (arrowCount · = number) := by
  rw [List.countP_filter]
  apply List.countP_congr
  intro line _
  rw [Bool.and_eq_true, beq_iff_eq, length_arrowParts, Nat.add_right_cancel_iff,
    hasArrow_iff, decide_eq_true_eq, and_iff_left_iff_imp]
  rintro rfl
  exact hnumber

end Arrows

section Lines

theorem withoutComment_append_comment (line : List Char) :
    withoutComment line ++ comment line = line :=
  List.takeWhile_append_dropWhile

theorem head_comment {character : Char}
    (h : (comment line).head? = some character) : character = '#' := by
  have hdrop := List.head?_dropWhile_not (· != '#') line
  rw [← comment, h] at hdrop
  simpa using hdrop

/-- No sign reaches from what counts into the comment. -/
theorem arrowCount_line (line : List Char) :
    arrowCount line =
      arrowCount (withoutComment line) + arrowCount (comment line) := by
  have hhead : (comment line).head? ≠ some '>' := fun hangle =>
    absurd (head_comment hangle) (by decide)
  rw [← arrowCount_append (.inr hhead), withoutComment_append_comment]

theorem arrowCount_of_blank
    (hread : Grammar.Document.readLine line = .ok .blank) :
    arrowCount (withoutComment line) = 0 := by
  rw [← arrowCount_trim]
  rcases code_of_blank hread with hempty | hheading
  · rw [hempty]
    rfl
  · rw [hheading]
    decide

theorem trim_withoutComment_isInfix (line : List Char) :
    trim (withoutComment line) <:+: line := by
  obtain ⟨lead, trail, -, -, hcode⟩ := exists_trim (withoutComment line)
  have hinside : trim (withoutComment line) <:+: withoutComment line :=
    ⟨lead, trail, hcode.symm⟩
  exact hinside.trans (List.takeWhile_prefix _).isInfix

/-- Where no line can have several productions, the arrows that are counted are
those that are meant. -/
theorem arrowCount_eq_arrowsOf {found : Line}
    (hread : Grammar.Document.readLine line = .ok found)
    (hproductions : ∀ rule, found = .rule rule →
      ∃ entry, readProductions rule = .ok entry)
    (hbar : '|' ∉ line) (hdefinition : ¬ "::=".toList <:+: line) :
    arrowCount line = arrowsOf line := by
  rw [arrowCount_line, arrowsOf, hread, Nat.add_right_cancel_iff]
  cases found with
  | blank => exact arrowCount_of_blank hread
  | start symbol => rfl
  | rule rule =>
      obtain ⟨entry, hentry⟩ := hproductions rule rfl
      have hinside := trim_withoutComment_isInfix line
      rw [← arrowCount_trim]
      exact arrowCount_of_rule hread hentry
        (fun hin => hbar (hinside.subset hin))
        fun hoccurs => hdefinition (hoccurs.trans hinside)

end Lines

end RightLinear.Collection
