import RightLinear.Grammar.Document
import RightLinear.Proofs.Text.Lines

/-! Blanks around the lines of a grammar.  A line is read without its comment
and the blanks around what is left, and lines that say nothing are passed over,
so a text is read as its visible lines are. -/

namespace RightLinear.Grammar

open Text

namespace Document

section Comments

variable {lead trail : List Char}

theorem withoutComment_lead
    (hlead : ∀ character ∈ lead, isBlank character = true) (text : List Char) :
    withoutComment (lead ++ text) = lead ++ withoutComment text := by
  refine List.takeWhile_append_of_pos fun character hcharacter => ?_
  rw [bne_iff_ne]
  rintro rfl
  exact not_mem_of_blank rfl hlead hcharacter

/-- Blanks after a line stand after what is kept of it or in its comment. -/
theorem exists_withoutComment_trail
    (htrail : ∀ character ∈ trail, isBlank character = true)
    (text : List Char) :
    ∃ kept, (∀ character ∈ kept, isBlank character = true) ∧
      withoutComment (text ++ trail) = withoutComment text ++ kept := by
  rw [withoutComment, withoutComment, List.takeWhile_append]
  split
  · next hlength =>
      refine ⟨trail.takeWhile (· != '#'), ?_, ?_⟩
      · exact fun character h => htrail character
          ((List.takeWhile_prefix _).subset h)
      · rw [(List.takeWhile_prefix _).eq_of_length hlength]
  · exact ⟨[], List.forall_mem_nil _, (List.append_nil _).symm⟩

theorem trim_withoutComment_trim (line : List Char) :
    trim (withoutComment (trim line)) = trim (withoutComment line) := by
  obtain ⟨lead, trail, hlead, htrail, heq⟩ := exists_trim line
  obtain ⟨kept, hkept, hwithout⟩ :=
    exists_withoutComment_trail htrail (trim line)
  have hline : withoutComment line =
      lead ++ withoutComment (trim line) ++ kept := by
    rw [List.append_assoc, ← hwithout, ← withoutComment_lead hlead,
      ← List.append_assoc, ← heq]
  rw [hline, trim_surrounded hlead hkept]

theorem readLine_trim (line : List Char) :
    readLine (trim line) = readLine line := by
  rw [readLine, readLine, trim_withoutComment_trim]

end Comments

/-- The grammar that some lines give. -/
def readLines (lines : List (List Char)) : Except DocumentError Grammar := do
  let lines ← lines.mapM readLine
  let rules := lines.filterMap Line.rule?
  if rules.isEmpty then throw .noProductions
  if epsilon ∈ declaredTerminals rules then throw .emptyProduction
  let productions ← rules.mapM readProductions
  (ofDescription (description rules (givenStart? lines)
    (gather productions))).mapError .fault

theorem readLines_visible (lines : List (List Char)) :
    readLines (visible lines) = readLines lines := by
  have hrule : Line.rule? .blank = none := rfl
  have hstart : Line.start? .blank = none := rfl
  refine mapM_visible readLine rfl readLine_trim (fun found => ?_) lines
  simp only [filterMap_filter_ne hrule, givenStart?,
    filterMap_filter_ne hstart]

end Document

open Document

theorem read_eq (text : String) :
    read text = readLines (visibleLines text.toList) := by
  rw [visibleLines, readLines_visible]
  rfl

/-- Blanks around a text do not change what is read. -/
theorem read_trim (text : List Char) :
    read (String.ofList (trim text)) = read (String.ofList text) := by
  rw [read_eq, read_eq, String.toList_ofList (l := trim text),
    String.toList_ofList (l := text), visibleLines_trim]

end RightLinear.Grammar
