import RightLinear.Proofs.Automaton.Blocks

/-! Comments between the lines of a text of automata.  The lines above a place
and those below it are cut into definitions for themselves, and the two
definitions that meet there are one.  A comment is a line of that definition and
says nothing in it.  But separators are looked for before comments: a comment
with a separator in it ends the definition, and what follows the separator is
taken for a line. -/

namespace RightLinear.Automaton

open Text

/-- A single line whose first character that is not blank is `#`. -/
structure IsComment (line : List Char) : Prop where
  head : (trim line).head? = some '#'
  single : '\n' ∉ line

theorem IsComment.ne_nil {line : List Char} (h : IsComment line) :
    trim line ≠ [] := by
  intro hnone
  have hhead := h.head
  rw [hnone] at hhead
  contradiction

/-- The text with these lines. -/
def textOf (lines : List (List Char)) : String :=
  String.ofList (['\n'].intercalate lines)

theorem textOf_lines (text : String) : textOf (lines text.toList) = text := by
  rw [textOf, intercalate_lines, String.ofList_toList]

/-- What is visible of each definition, the empty ones included. -/
def definitions (lines : List (List Char)) : List (List (List Char)) :=
  (splitOn "---".toList (['\n'].intercalate lines)).map visibleLines

theorem readAll_textOf (lines : List (List Char)) :
    readAll (textOf lines) =
      ((definitions lines).filter (!·.isEmpty)).mapM Document.readLines := by
  rw [readAll_eq, textOf,
    String.toList_ofList (l := ['\n'].intercalate lines), definitions]

theorem definitions_ne_nil (lines : List (List Char)) : definitions lines ≠ [] := by
  rw [definitions, ne_eq, List.map_eq_nil_iff]
  exact splitOn_ne_nil _ _

/-- The definitions in two groups of lines when one stands below the other. -/
def joined (above below : List (List (List Char))) : List (List (List Char)) :=
  above.dropLast ++ (above.getLast?.getD [] ++ below.head?.getD []) :: below.tail

@[simp] theorem joined_eq (front rest : List (List (List Char)))
    (last first : List (List Char)) :
    joined (front ++ [last]) (first :: rest) =
      front ++ (last ++ first) :: rest := by
  simp [joined]

theorem definitions_nil : definitions [] = [[]] := by
  rw [definitions, List.intercalate_nil, splitOn_of_cut?_none rfl]
  rfl

theorem definitions_append (above below : List (List Char)) :
    definitions (above ++ below) =
      joined (definitions above) (definitions below) := by
  by_cases habove : above = []
  · subst habove
    obtain ⟨first, rest, hrest⟩ :=
      List.exists_cons_of_ne_nil (definitions_ne_nil below)
    rw [definitions_nil, hrest, List.nil_append, hrest]
    exact (joined_eq [] rest [] first).symm
  by_cases hbelow : below = []
  · subst hbelow
    obtain ⟨front, last, hlast⟩ :=
      (List.eq_nil_or_concat' (definitions above)).resolve_left
        (definitions_ne_nil above)
    rw [definitions_nil, List.append_nil, hlast, joined_eq, List.append_nil]
  obtain ⟨front, last, hlast⟩ :=
    (List.eq_nil_or_concat'
      (splitOn "---".toList (['\n'].intercalate above))).resolve_left
        (splitOn_ne_nil _ _)
  obtain ⟨first, rest, hfirst⟩ := List.exists_cons_of_ne_nil
    (splitOn_ne_nil "---".toList (['\n'].intercalate below))
  rw [definitions, definitions, definitions, intercalate_append habove hbelow,
    splitOn_append_newline (by decide) (visible_of_all rfl) hlast hfirst,
    hlast, hfirst]
  simp only [List.map_append, List.map_cons, List.map_nil, joined_eq,
    visibleLines_append_cons]

theorem joined_append_left {last : List (List (List Char))} (hlast : last ≠ [])
    (above below : List (List (List Char))) :
    joined (above ++ last) below = above ++ joined last below := by
  rw [joined, joined, List.dropLast_append_of_ne_nil hlast,
    List.getLast?_append_of_ne_nil _ hlast, List.append_assoc]

theorem joined_append_right {first : List (List (List Char))}
    (hfirst : first ≠ []) (above below : List (List (List Char))) :
    joined above (first ++ below) = joined above first ++ below := by
  obtain ⟨piece, pieces, rfl⟩ := List.exists_cons_of_ne_nil hfirst
  simp [joined]

namespace Document

/-- A line that says nothing may as well be left out. -/
theorem readLines_insert {line : List Char} (hline : readLine line = .ok .blank)
    (above below : List (List Char)) :
    readLines (above ++ line :: below) = readLines (above ++ below) := by
  have hfinish : ∀ first second : List Line,
      description (first ++ .blank :: second) = description (first ++ second) := by
    intro first second
    rw [← description_filter, ← description_filter (first ++ second)]
    simp
  have hpure : readLine line = pure .blank := hline
  rw [readLines, readLines, List.mapM_append, List.mapM_append, List.mapM_cons,
    hpure]
  simp only [bind_assoc, pure_bind, hfinish]

end Document

section Insertion

variable {above below : List (List Char)} {comment : List Char}

theorem IsComment.readLine (h : IsComment comment) :
    Document.readLine (trim comment) = .ok .blank := by
  rw [Document.readLine_trim, Document.readLine]
  simp [h.head]

theorem IsComment.definitions_eq (h : IsComment comment)
    (hplain : ¬ "---".toList <:+: comment) :
    definitions [comment] = [[trim comment]] := by
  rw [definitions, List.intercalate_singleton,
    splitOn_of_passes (passes_nil hplain), List.map_singleton, visibleLines,
    lines_of_not_mem h.single, visible_cons h.ne_nil]
  rfl

/-- The definition around the place between two groups of lines. -/
def around (above below : List (List Char)) : List (List Char) :=
  (definitions above).getLast?.getD [] ++ (definitions below).head?.getD []

/-- A comment without a separator is one more line of the definition around
it. -/
theorem exists_definitions (above below : List (List Char)) :
    ∃ front rest last first, last ++ first = around above below ∧
      definitions (above ++ below) = front ++ (last ++ first) :: rest ∧
        ∀ comment, IsComment comment → ¬ "---".toList <:+: comment →
          definitions (above ++ comment :: below) =
            front ++ (last ++ trim comment :: first) :: rest := by
  obtain ⟨front, last, habove⟩ :=
    (List.eq_nil_or_concat' (definitions above)).resolve_left
      (definitions_ne_nil above)
  obtain ⟨first, rest, hbelow⟩ :=
    List.exists_cons_of_ne_nil (definitions_ne_nil below)
  refine ⟨front, rest, last, first, ?_, ?_, ?_⟩
  · rw [around, habove, hbelow, List.getLast?_concat]
    rfl
  · rw [definitions_append, habove, hbelow, joined_eq]
  · intro comment hcomment hplain
    have hjoined : joined [[trim comment]] (first :: rest) =
        (trim comment :: first) :: rest :=
      joined_eq [] rest [trim comment] first
    rw [← List.singleton_append, definitions_append, definitions_append,
      hcomment.definitions_eq hplain, habove, hbelow, hjoined, joined_eq]

theorem readAll_insert (hcomment : IsComment comment)
    (hplain : ¬ "---".toList <:+: comment) (haround : around above below ≠ []) :
    readAll (textOf (above ++ comment :: below)) =
      readAll (textOf (above ++ below)) := by
  obtain ⟨front, rest, last, first, hlines, hdefinitions, hinserted⟩ :=
    exists_definitions above below
  have hkept : last ++ first ≠ [] := hlines ▸ haround
  rw [readAll_textOf, readAll_textOf, hdefinitions,
    hinserted comment hcomment hplain, List.filter_append, List.filter_append,
    List.filter_cons_of_pos (by simp),
    List.filter_cons_of_pos (by simpa using hkept), List.mapM_append,
    List.mapM_append, List.mapM_cons, List.mapM_cons,
    Document.readLines_insert hcomment.readLine]

/-- Between separators a comment is a definition of its own, without a start. -/
theorem readAll_insert_alone (hcomment : IsComment comment)
    (hplain : ¬ "---".toList <:+: comment) (haround : around above below = []) :
    (readAll (textOf (above ++ comment :: below))).toOption = none := by
  obtain ⟨front, rest, last, first, hlines, -, hinserted⟩ :=
    exists_definitions above below
  rw [haround, List.append_eq_nil_iff] at hlines
  obtain ⟨rfl, rfl⟩ := hlines
  have hmissing : Document.readLines [trim comment] = .error .missingStart := by
    rw [Document.readLines, List.mapM_cons, hcomment.readLine]
    rfl
  cases hread : readAll (textOf (above ++ comment :: below)) with
  | error failure => rfl
  | ok automata =>
      rw [readAll_textOf, hinserted comment hcomment hplain] at hread
      have hmem : [trim comment] ∈ (front ++ [trim comment] :: rest).filter
          (!·.isEmpty) := by simp
      obtain ⟨automaton, -, hautomaton⟩ := exists_of_mapM hread _ hmem
      rw [hmissing] at hautomaton
      contradiction

/-- A separator ends a definition wherever it stands in a line. -/
theorem readAll_insert_separator {line head tail : List Char}
    (hcut : cut? "---".toList line = some (head, tail))
    (above below : List (List Char)) :
    readAll (textOf (above ++ line :: below)) = (do
      let earlier ← readAll (textOf (above ++ [head]))
      let later ← readAll (textOf (tail :: below))
      return earlier ++ later) := by
  have hhead : ¬ "---".toList <:+: head :=
    not_isInfix_of_cut?_eq_some (by decide) hcut
  have hline : definitions [line] = definitions [head] ++ definitions [tail] := by
    rw [definitions, definitions, definitions, List.intercalate_singleton,
      List.intercalate_singleton, List.intercalate_singleton,
      splitOn_of_cut?_some (by decide) hcut,
      splitOn_of_passes (passes_nil hhead)]
    rfl
  have hall : definitions (above ++ line :: below) =
      definitions (above ++ [head]) ++ definitions (tail :: below) := by
    rw [← List.singleton_append (x := line),
      ← List.singleton_append (x := tail), definitions_append,
      definitions_append, definitions_append, definitions_append, hline,
      joined_append_left (definitions_ne_nil _),
      joined_append_right (definitions_ne_nil _)]
  simp only [readAll_textOf, hall, List.filter_append, List.mapM_append]

/-- A comment without a separator leaves the outcome as it is exactly if it
stands in a definition that holds something or the text cannot be read anyway.
A comment with a separator makes two texts of the one it is put into, with its
own tail as the first line of the second. -/
theorem comment_inert_iff {text : String}
    (hlines : lines text.toList = above ++ below) (hcomment : IsComment comment) :
    (¬ "---".toList <:+: comment →
      ((readAll (textOf (above ++ comment :: below))).toOption =
          (readAll text).toOption ↔
        around above below ≠ [] ∨ (readAll text).toOption = none)) ∧
    ∀ head tail, cut? "---".toList comment = some (head, tail) →
      readAll (textOf (above ++ comment :: below)) = (do
        let earlier ← readAll (textOf (above ++ [head]))
        let later ← readAll (textOf (tail :: below))
        return earlier ++ later) := by
  constructor
  · intro hplain
    have htext : textOf (above ++ below) = text := hlines ▸ textOf_lines text
    by_cases haround : around above below = []
    · rw [readAll_insert_alone hcomment hplain haround, haround]
      simp [eq_comm]
    · rw [readAll_insert hcomment hplain haround, htext]
      exact iff_of_true rfl (.inl haround)
  · exact fun head tail hcut => readAll_insert_separator hcut above below

theorem note_inert :
    lines "start: p\np a r".toList = ["start: p".toList] ++ ["p a r".toList] ∧
      IsComment " # note".toList ∧ ¬ "---".toList <:+: " # note".toList ∧
        around ["start: p".toList] ["p a r".toList] ≠ [] ∧
          (readAll "start: p\n # note\np a r").toOption =
            (readAll "start: p\np a r").toOption := by
  have hlines : lines "start: p\np a r".toList =
      ["start: p".toList] ++ ["p a r".toList] := by decide +kernel
  have hcomment : IsComment " # note".toList :=
    ⟨by decide +kernel, by decide⟩
  have hplain : ¬ "---".toList <:+: " # note".toList := by decide +kernel
  have haround : around ["start: p".toList] ["p a r".toList] ≠ [] := by
    decide +kernel
  have hinert := (comment_inert_iff hlines hcomment).1 hplain
  exact ⟨hlines, hcomment, hplain, haround, hinert.mpr (.inl haround)⟩

/-- A heading with dashes is taken apart, and a comment after the last separator
is taken for a definition. -/
theorem comments_not_inert :
    (IsComment "# --- states ---".toList ∧
      (readAll "start: p").toOption.isSome = true ∧
        readAll (textOf ("# --- states ---".toList :: lines "start: p".toList)) =
          .error .missingStart) ∧
    IsComment "# end".toList ∧
      (readAll "start: p\n---").toOption.isSome = true ∧
        readAll (textOf (lines "start: p\n---".toList ++ ["# end".toList])) =
          .error .missingStart := by
  refine ⟨⟨⟨by decide +kernel, by decide⟩, ?_, ?_⟩,
    ⟨by decide +kernel, by decide⟩, ?_, ?_⟩
  · decide +kernel
  · decide +kernel
  · decide +kernel
  · decide +kernel

end Insertion

end RightLinear.Automaton
