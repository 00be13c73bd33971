import RightLinear.Proofs.Text.Split

/-! Lines and words of a text that is put together.  Whatever stands before a
line end, the lines after it are the lines of the rest, and the same holds of
words and blanks.  A line counts for what is left of it without the blanks
around it; lines of blanks do not count. -/

namespace RightLinear.Text

section Pieces

variable {separates : Char → Bool} {separator : Char}

theorem splitWhere_eq_splitOnP (separates : Char → Bool) (text : List Char) :
    splitWhere separates text = text.splitOnP separates := by
  induction text with
  | nil => rfl
  | cons character rest ih =>
      rw [splitWhere, List.splitOnP_cons_eq_if_modifyHead, ih]
      split
      · rfl
      · cases hrest : rest.splitOnP separates with
        | nil => exact absurd hrest (List.splitOnP_ne_nil separates rest)
        | cons piece pieces => rfl

theorem splitWhere_append_cons (hseparator : separates separator = true)
    (first rest : List Char) :
    splitWhere separates (first ++ separator :: rest) =
      splitWhere separates first ++ splitWhere separates rest := by
  simp only [splitWhere_eq_splitOnP]
  exact List.splitOnP_append_cons first rest hseparator

theorem separates_eq_false_of_mem {text piece : List Char}
    (hpiece : piece ∈ splitWhere separates text) :
    ∀ character ∈ piece, separates character = false := by
  induction text generalizing piece with
  | nil =>
      obtain rfl := List.mem_singleton.mp hpiece
      exact List.forall_mem_nil _
  | cons first rest ih =>
      rw [splitWhere] at hpiece
      split at hpiece
      · rcases List.mem_cons.mp hpiece with rfl | hlater
        · exact List.forall_mem_nil _
        · exact ih hlater
      · next hfirst =>
          split at hpiece
          · next hnone => exact absurd hnone (splitWhere_ne_nil separates rest)
          · next piece pieces hrest =>
              rcases List.mem_cons.mp hpiece with rfl | hlater
              · refine List.forall_mem_cons.mpr ⟨?_, ?_⟩
                · simpa using hfirst
                · exact ih (hrest ▸ List.mem_cons_self)
              · exact ih (hrest ▸ List.mem_cons_of_mem _ hlater)

/-- What is appended to a text without separators goes to the last piece. -/
theorem exists_splitWhere_append (text : List Char) :
    ∃ pieces last, splitWhere separates text = pieces ++ [last] ∧
      ∀ more, (∀ character ∈ more, separates character = false) →
        splitWhere separates (text ++ more) = pieces ++ [last ++ more] := by
  induction text with
  | nil => exact ⟨[], [], rfl, fun more hmore => splitWhere_piece hmore⟩
  | cons first rest ih =>
      obtain ⟨pieces, last, hrest, hmore⟩ := ih
      by_cases hfirst : separates first = true
      · refine ⟨[] :: pieces, last, ?_, fun more hvisible => ?_⟩
        · rw [splitWhere_separator hfirst, hrest, List.cons_append]
        · rw [List.cons_append, splitWhere_separator hfirst, hmore more hvisible,
            List.cons_append]
      · cases pieces with
        | nil =>
            refine ⟨[], first :: last, ?_, fun more hvisible => ?_⟩
            · rw [splitWhere, if_neg hfirst, hrest]
              rfl
            · rw [List.cons_append, splitWhere, if_neg hfirst,
                hmore more hvisible]
              rfl
        | cons piece pieces =>
            refine ⟨(first :: piece) :: pieces, last, ?_,
              fun more hvisible => ?_⟩
            · rw [splitWhere, if_neg hfirst, hrest]
              rfl
            · rw [List.cons_append, splitWhere, if_neg hfirst,
                hmore more hvisible]
              rfl

end Pieces

section Lines

theorem lines_append_cons (first rest : List Char) :
    lines (first ++ '\n' :: rest) = lines first ++ lines rest :=
  splitWhere_append_cons rfl first rest

theorem lines_of_not_mem {line : List Char} (h : '\n' ∉ line) :
    lines line = [line] :=
  splitWhere_piece (beq_eq_false_of_not_mem h)

/-- A text of which every line is ended leaves an empty piece. -/
theorem lines_terminated {texts : List (List Char)}
    (h : ∀ text ∈ texts, '\n' ∉ text) :
    lines (texts.flatMap (· ++ ['\n'])) = texts ++ [[]] := by
  induction texts with
  | nil => rfl
  | cons text texts ih =>
      obtain ⟨htext, hlater⟩ := List.forall_mem_cons.mp h
      rw [List.flatMap_cons, List.append_assoc, List.singleton_append,
        lines_append_cons, lines_of_not_mem htext, ih hlater]
      rfl

theorem not_mem_of_mem_lines {text line : List Char} (h : line ∈ lines text) :
    '\n' ∉ line := by
  intro hin
  have hline := separates_eq_false_of_mem h '\n' hin
  contradiction

theorem intercalate_lines (text : List Char) :
    ['\n'].intercalate (lines text) = text := by
  rw [lines, splitWhere_eq_splitOnP]
  exact List.intercalate_splitOn '\n'

theorem infix_intercalate {separator text : List Char}
    {texts : List (List Char)} (h : text ∈ texts) :
    text <:+: separator.intercalate texts := by
  induction texts with
  | nil => contradiction
  | cons first texts ih =>
      cases texts with
      | nil =>
          obtain rfl := List.mem_singleton.mp h
          exact ⟨[], [], by simp⟩
      | cons next texts =>
          rw [List.intercalate_cons_cons]
          rcases List.mem_cons.mp h with rfl | hlater
          · rw [List.append_assoc]
            exact (List.prefix_append _ _).isInfix
          · exact (ih hlater).trans (List.suffix_append _ _).isInfix

theorem infix_of_mem_lines {text line : List Char} (h : line ∈ lines text) :
    line <:+: text := by
  have hoccurs := @infix_intercalate ['\n'] _ _ h
  rwa [intercalate_lines] at hoccurs

theorem lines_intercalate_texts {texts : List (List Char)} (hne : texts ≠ []) :
    lines (['\n'].intercalate texts) = texts.flatMap lines := by
  induction texts with
  | nil => contradiction
  | cons text texts ih =>
      cases texts with
      | nil => simp
      | cons next texts =>
          rw [List.intercalate_cons_cons, List.append_assoc,
            List.singleton_append, lines_append_cons,
            ih (List.cons_ne_nil _ _), List.flatMap_cons (x := text)]

end Lines

section Words

/-- A text without blanks. -/
def Unbroken (text : String) : Prop :=
  ∀ character ∈ text.toList, isBlank character = false

instance (text : String) : Decidable (Unbroken text) :=
  List.decidableBAll (isBlank · = false) text.toList

variable {gap word text : List Char} {blank : Char}

theorem words_append_cons (hblank : isBlank blank = true)
    (first rest : List Char) :
    words (first ++ blank :: rest) = words first ++ words rest := by
  rw [words, splitWhere_append_cons hblank, List.filter_append]
  rfl

theorem words_lead (hgap : ∀ character ∈ gap, isBlank character = true)
    (text : List Char) : words (gap ++ text) = words text := by
  induction gap with
  | nil => rfl
  | cons blank gap ih =>
      have hparts := List.forall_mem_cons.mp hgap
      have hall := words_append_cons hparts.1 [] (gap ++ text)
      rw [List.nil_append] at hall
      rw [List.cons_append, hall, ih hparts.2]
      rfl

theorem words_single (hne : word ≠ [])
    (hword : ∀ character ∈ word, isBlank character = false) :
    words word = [word] := by
  rw [words, splitWhere_piece hword, List.filter_cons_of_pos]
  · rfl
  · simpa using hne

/-- A word ends at the next blank. -/
theorem words_append (hne : word ≠ [])
    (hword : ∀ character ∈ word, isBlank character = false) (hgapNe : gap ≠ [])
    (hgap : ∀ character ∈ gap, isBlank character = true) (text : List Char) :
    words (word ++ (gap ++ text)) = word :: words text := by
  obtain ⟨blank, gap, rfl⟩ := List.exists_cons_of_ne_nil hgapNe
  have hparts := List.forall_mem_cons.mp hgap
  rw [List.cons_append, words_append_cons hparts.1, words_single hne hword,
    words_lead hparts.2]
  rfl

end Words

section Trimming

variable {lead trail text : List Char}

private theorem exists_trimStart (text : List Char) :
    ∃ lead, (∀ character ∈ lead, isBlank character = true) ∧
      text = lead ++ trimStart text :=
  ⟨text.takeWhile isBlank, List.all_eq_true.mp List.all_takeWhile,
    List.takeWhile_append_dropWhile.symm⟩

private theorem exists_trimEnd (text : List Char) :
    ∃ trail, (∀ character ∈ trail, isBlank character = true) ∧
      text = trimEnd text ++ trail := by
  obtain ⟨lead, hlead, heq⟩ := exists_trimStart text.reverse
  refine ⟨lead.reverse, fun character h => hlead character (by simpa using h), ?_⟩
  have hreverse := congrArg List.reverse heq
  rwa [List.reverse_reverse, List.reverse_append] at hreverse

theorem exists_trim (text : List Char) :
    ∃ lead trail, (∀ character ∈ lead, isBlank character = true) ∧
      (∀ character ∈ trail, isBlank character = true) ∧
        text = lead ++ trim text ++ trail := by
  obtain ⟨lead, hlead, hstart⟩ := exists_trimStart text
  obtain ⟨trail, htrail, hend⟩ := exists_trimEnd (trimStart text)
  refine ⟨lead, trail, hlead, htrail, ?_⟩
  rw [trim, List.append_assoc, ← hend, ← hstart]

theorem head_trimStart {character : Char}
    (h : (trimStart text).head? = some character) :
    isBlank character = false := by
  have hdrop := List.head?_dropWhile_not isBlank text
  rw [← trimStart, h] at hdrop
  simpa using hdrop

theorem isTrimmed_trim (text : List Char) : IsTrimmed (trim text) where
  head := by
    intro character hhead
    obtain ⟨trail, _, heq⟩ := exists_trimEnd (trimStart text)
    have hstart : (trimStart text).head? = some character := by
      rw [heq, List.head?_append, ← trim, hhead]
      rfl
    exact head_trimStart hstart
  last := by
    intro character hlast
    rw [trim, trimEnd, List.getLast?_reverse] at hlast
    exact head_trimStart hlast

theorem trim_of_isTrimmed (h : IsTrimmed text) : trim text = text := by
  have hall := trim_append (List.forall_mem_nil _) h (List.forall_mem_nil _)
  rwa [List.nil_append, List.append_nil] at hall

theorem trim_trim (text : List Char) : trim (trim text) = trim text :=
  trim_of_isTrimmed (isTrimmed_trim text)

/-- Blanks around a text make no difference to what is left of it. -/
theorem trim_surrounded (hlead : ∀ character ∈ lead, isBlank character = true)
    (htrail : ∀ character ∈ trail, isBlank character = true)
    (text : List Char) : trim (lead ++ text ++ trail) = trim text := by
  obtain ⟨before, after, hbefore, hafter, heq⟩ := exists_trim text
  have hall : lead ++ text ++ trail =
      (lead ++ before) ++ trim text ++ (after ++ trail) := by
    have hsame := congrArg (lead ++ · ++ trail) heq
    simpa only [List.append_assoc] using hsame
  rw [hall]
  exact trim_append (List.forall_mem_append.mpr ⟨hlead, hbefore⟩)
    (isTrimmed_trim text) (List.forall_mem_append.mpr ⟨hafter, htrail⟩)

theorem isBlank_of_trim_eq_nil (h : trim text = []) :
    ∀ character ∈ text, isBlank character = true := by
  obtain ⟨lead, trail, hlead, htrail, heq⟩ := exists_trim text
  rw [heq, h, List.append_nil]
  exact List.forall_mem_append.mpr ⟨hlead, htrail⟩

end Trimming

section Visible

/-- What counts of some lines. -/
def visible (lines : List (List Char)) : List (List Char) :=
  (lines.map trim).filter (!·.isEmpty)

def visibleLines (text : List Char) : List (List Char) := visible (lines text)

variable {lead trail text : List Char}

theorem visible_append (first second : List (List Char)) :
    visible (first ++ second) = visible first ++ visible second := by
  simp only [visible, List.map_append, List.filter_append]

theorem visible_cons_of_blank {line : List Char} (h : trim line = [])
    (lines : List (List Char)) : visible (line :: lines) = visible lines := by
  rw [visible, List.map_cons, h]
  rfl

theorem visible_cons {line : List Char} (h : trim line ≠ [])
    (lines : List (List Char)) :
    visible (line :: lines) = trim line :: visible lines := by
  rw [visible, List.map_cons, List.filter_cons_of_pos]
  · rfl
  · simpa using h

theorem mem_visible {line : List Char} {lines : List (List Char)} :
    line ∈ visible lines ↔ line ≠ [] ∧ ∃ whole ∈ lines, trim whole = line := by
  simp [visible, and_comm]

theorem visibleLines_append_cons (first rest : List Char) :
    visibleLines (first ++ '\n' :: rest) =
      visibleLines first ++ visibleLines rest := by
  rw [visibleLines, lines_append_cons, visible_append]
  rfl

theorem visibleLines_nil : visibleLines [] = [] := rfl

/-- Lines that differ in the blanks around them are the same to a reader. -/
private theorem visible_congr {first second : List (List Char)}
    (h : first.map trim = second.map trim) : visible first = visible second := by
  rw [visible, h]
  rfl

theorem visibleLines_lead (hlead : ∀ character ∈ lead, isBlank character = true)
    (text : List Char) : visibleLines (lead ++ text) = visibleLines text := by
  induction lead with
  | nil => rfl
  | cons blank lead ih =>
      have hparts := List.forall_mem_cons.mp hlead
      rw [← ih hparts.2, List.cons_append]
      by_cases hend : blank = '\n'
      · subst hend
        exact visibleLines_append_cons [] (lead ++ text)
      · obtain ⟨first, rest, hlines⟩ := List.exists_cons_of_ne_nil
          (splitWhere_ne_nil (· == '\n') (lead ++ text))
        have hadded : lines ([blank] ++ (lead ++ text)) =
            ([blank] ++ first) :: rest :=
          splitWhere_lead (by simpa using hend) hlines
        have htrim := trim_surrounded
          (List.forall_mem_singleton.mpr hparts.1) (List.forall_mem_nil _) first
        rw [List.append_nil] at htrim
        apply visible_congr
        rw [← List.singleton_append, hadded, lines, hlines, List.map_cons,
          List.map_cons, htrim]

theorem visibleLines_trail
    (htrail : ∀ character ∈ trail, isBlank character = true)
    (text : List Char) : visibleLines (text ++ trail) = visibleLines text := by
  induction trail generalizing text with
  | nil => rw [List.append_nil]
  | cons blank trail ih =>
      have hparts := List.forall_mem_cons.mp htrail
      have heq : text ++ blank :: trail = (text ++ [blank]) ++ trail := by simp
      rw [heq, ih hparts.2]
      by_cases hend : blank = '\n'
      · subst hend
        rw [visibleLines_append_cons, visibleLines_nil, List.append_nil]
      · obtain ⟨pieces, last, hlines, hmore⟩ :=
          @exists_splitWhere_append (· == '\n') text
        have hadded : lines (text ++ [blank]) = pieces ++ [last ++ [blank]] :=
          hmore [blank] (by simpa using hend)
        have htrim := trim_surrounded (List.forall_mem_nil _)
          (List.forall_mem_singleton.mpr hparts.1) last
        rw [List.nil_append] at htrim
        apply visible_congr
        rw [hadded, lines, hlines, List.map_append, List.map_append,
          List.map_singleton, List.map_singleton, htrim]

theorem visibleLines_trim (text : List Char) :
    visibleLines (trim text) = visibleLines text := by
  obtain ⟨lead, trail, hlead, htrail, heq⟩ := exists_trim text
  have hall := congrArg visibleLines heq
  rw [visibleLines_trail htrail, visibleLines_lead hlead] at hall
  exact hall.symm

theorem visibleLines_blank (h : ∀ character ∈ text, isBlank character = true) :
    visibleLines text = [] := by
  have hall := visibleLines_lead h []
  rwa [List.append_nil] at hall

theorem visibleLines_eq_nil_iff (text : List Char) :
    visibleLines text = [] ↔ trim text = [] := by
  constructor
  · intro hnone
    rw [← visibleLines_trim] at hnone
    have htrimmed := isTrimmed_trim text
    cases hcore : trim text with
    | nil => rfl
    | cons first rest =>
        rw [hcore] at hnone htrimmed
        have hfirst := htrimmed.head first rfl
        have hend : (first == '\n') = false := by
          rw [beq_eq_false_iff_ne]
          rintro rfl
          contradiction
        obtain ⟨line, lines, hlines⟩ := List.exists_cons_of_ne_nil
          (splitWhere_ne_nil (· == '\n') rest)
        have hadded := @splitWhere_lead (· == '\n') [first] _ _ _
          (by simpa using hend) hlines
        have hline : trim (first :: line) ≠ [] := by
          intro hblank
          have hcontrary := isBlank_of_trim_eq_nil hblank first
            List.mem_cons_self
          rw [hfirst] at hcontrary
          contradiction
        rw [visibleLines, Text.lines, ← List.singleton_append, hadded,
          List.singleton_append, visible_cons hline] at hnone
        contradiction
  · intro hblank
    exact visibleLines_blank (isBlank_of_trim_eq_nil hblank)

end Visible

section Reading

variable {ε β γ : Type} [DecidableEq β] {skipped : β}

theorem filterMap_filter_ne {part : β → Option γ} (h : part skipped = none)
    (results : List β) :
    (results.filter (· != skipped)).filterMap part = results.filterMap part := by
  rw [List.filterMap_filter]
  congr 1
  funext result
  by_cases hresult : result = skipped
  · simp [hresult, h]
  · simp [hresult]

theorem flatMap_filter_ne {part : β → List γ} (h : part skipped = [])
    (results : List β) :
    (results.filter (· != skipped)).flatMap part = results.flatMap part := by
  induction results with
  | nil => rfl
  | cons result results ih =>
      by_cases hresult : result = skipped
      · rw [List.filter_cons_of_neg (by simp [hresult]), List.flatMap_cons,
          hresult, h, List.nil_append, ih]
      · rw [List.filter_cons_of_pos (by simp [hresult]), List.flatMap_cons,
          List.flatMap_cons, ih]

/-- A reader that skips empty lines and looks at trimmed lines only finds the
same in all lines as in those that count, if nothing is made of what it
skips. -/
theorem mapM_visible (read : List Char → Except ε β)
    {finish : List β → Except ε γ} (hempty : read [] = .ok skipped)
    (htrim : ∀ line, read (trim line) = read line)
    (hfinish : ∀ results,
      finish (results.filter (· != skipped)) = finish results)
    (lines : List (List Char)) :
    (visible lines).mapM read >>= finish = lines.mapM read >>= finish := by
  induction lines generalizing finish with
  | nil => rfl
  | cons line lines ih =>
      by_cases hblank : trim line = []
      · have hline : read line = .ok skipped := by
          rw [← htrim, hblank, hempty]
        have hskip : ∀ results, finish (skipped :: results) = finish results := by
          intro results
          rw [← hfinish, List.filter_cons_of_neg (by simp), hfinish]
        rw [visible_cons_of_blank hblank, ih hfinish, List.mapM_cons, hline]
        simp only [bind_assoc, pure_bind]
        exact bind_congr fun results => (hskip results).symm
      · rw [visible_cons hblank, List.mapM_cons, List.mapM_cons, htrim]
        simp only [bind_assoc, pure_bind]
        refine bind_congr fun result => ih fun results => ?_
        rw [← hfinish, ← hfinish (result :: results)]
        simp [List.filter_cons]

end Reading

end RightLinear.Text
