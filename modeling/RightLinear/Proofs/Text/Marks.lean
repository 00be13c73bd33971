import RightLinear.Proofs.Text.Lines

/-! Marks in longer texts.  A text with a mark in it is cut in the same place
whatever follows, and what stands before the first mark or after the last one
stays in the first or the last piece.  Marks on lines of their own cut a text
between lines. -/

namespace RightLinear.Text

variable {mark : List Char}

section Finding

variable {text : List Char}

theorem passes_nil (h : ¬ mark <:+: text) : Passes mark text [] := by
  induction text with
  | nil => trivial
  | cons character text ih =>
      refine ⟨?_, ih fun hoccurs => h (List.infix_cons hoccurs)⟩
      rw [List.append_nil]
      exact fun hbegins => h hbegins.isInfix

theorem contains_iff_isInfix (hmark : mark ≠ []) :
    contains mark text = true ↔ mark <:+: text := by
  rw [contains, Option.isSome_iff_exists]
  constructor
  · rintro ⟨⟨before, after⟩, hcut⟩
    exact ⟨before, after, (cut?_sound hcut).symm⟩
  · intro hoccurs
    induction text with
    | nil => exact absurd (List.infix_nil.mp hoccurs) hmark
    | cons character text ih =>
        rw [cut?]
        split
        · exact ⟨_, rfl⟩
        · next hbegins =>
            rw [List.isPrefixOf_iff_prefix] at hbegins
            obtain ⟨sides, hsides⟩ :=
              ih ((List.infix_cons_iff.mp hoccurs).resolve_left hbegins)
            rw [hsides]
            exact ⟨_, rfl⟩

theorem passes_of_avoids (hmark : mark ≠ []) (htext : Avoids mark text)
    (rest : List Char) : Passes mark text rest := by
  obtain ⟨lead, mark, rfl⟩ := List.exists_cons_of_ne_nil hmark
  exact passes_of_not_mem
    (fun hin => htext lead hin List.mem_cons_self) mark rest

/-- What follows a text without the mark and shares no character with it
completes no mark. -/
theorem passes_trail {trail : List Char} (hmark : mark ≠ [])
    (htext : ¬ mark <:+: text) (htrail : Avoids mark trail) :
    Passes mark (text ++ trail) [] := by
  cases trail with
  | nil =>
      rw [List.append_nil]
      exact passes_nil htext
  | cons next trail =>
      refine passes_append.mpr ⟨?_, passes_of_avoids hmark htrail []⟩
      rw [List.append_nil]
      exact passes_of_not_isInfix htext (htrail next List.mem_cons_self) trail

theorem contains_eq_false_iff (hmark : mark ≠ []) :
    contains mark text = false ↔ ¬ mark <:+: text := by
  rw [← contains_iff_isInfix hmark, Bool.not_eq_true]

theorem prefix_of_after? {lead rest : List Char}
    (h : after? lead text = some rest) : lead <+: text := by
  rw [after?] at h
  split at h
  · next hbegins => exact List.isPrefixOf_iff_prefix.mp hbegins
  · contradiction

theorem not_isInfix_of_cut? (hmark : mark ≠ []) (h : cut? mark text = none) :
    ¬ mark <:+: text := by
  rw [← contains_eq_false_iff hmark, contains, h]
  rfl

/-- A text is cut at the first occurrence of the mark. -/
theorem not_isInfix_of_cut?_eq_some (hmark : mark ≠ [])
    {before after : List Char} (h : cut? mark text = some (before, after)) :
    ¬ mark <:+: before := by
  induction text generalizing before with
  | nil => contradiction
  | cons character text ih =>
      have hsound := cut?_sound h
      rw [cut?] at h
      split at h
      · obtain ⟨rfl, rfl⟩ := Prod.mk.inj (Option.some.inj h)
        exact fun hoccurs => hmark (List.infix_nil.mp hoccurs)
      · next hbegins =>
          obtain ⟨⟨inside, rest⟩, hrest, heq⟩ := Option.map_eq_some_iff.mp h
          obtain ⟨rfl, rfl⟩ := Prod.mk.inj heq
          rw [List.infix_cons_iff, not_or]
          refine ⟨fun hlead => hbegins ?_, ih hrest⟩
          rw [List.isPrefixOf_iff_prefix, hsound, List.append_assoc]
          exact hlead.trans (List.prefix_append _ _)

theorem length_le_of_cut? {before after : List Char}
    (h : cut? mark text = some (before, after)) :
    mark.length ≤ text.length := by
  have hlength := congrArg List.length (cut?_sound h)
  simp only [List.length_append] at hlength
  omega

/-- The first occurrence of a mark is the first one in any longer text. -/
theorem cut?_more {before after : List Char}
    (h : cut? mark text = some (before, after)) (more : List Char) :
    cut? mark (text ++ more) = some (before, after ++ more) := by
  induction text generalizing before with
  | nil => contradiction
  | cons character text ih =>
      have hlength := length_le_of_cut? h
      have hsame : mark <+: character :: (text ++ more) ↔
          mark <+: character :: text := by
        constructor
        · intro hlong
          exact List.prefix_of_prefix_length_le hlong
            (List.prefix_append (character :: text) more) hlength
        · exact fun hshort => hshort.trans (List.prefix_append _ more)
      rw [cut?] at h
      rw [List.cons_append, cut?]
      simp only [List.isPrefixOf_iff_prefix, hsame] at h ⊢
      split at h
      · next hbegins =>
          obtain ⟨rfl, rfl⟩ := Prod.mk.inj (Option.some.inj h)
          rw [if_pos hbegins, ← List.cons_append,
            List.drop_append_of_le_length hlength]
      · next hbegins =>
          obtain ⟨⟨first, rest⟩, hrest, heq⟩ := Option.map_eq_some_iff.mp h
          obtain ⟨rfl, rfl⟩ := Prod.mk.inj heq
          rw [if_neg hbegins, ih hrest]
          rfl

end Finding

section Cutting

variable {text lead trail first : List Char} {pieces : List (List Char)}

theorem splitOn_ne_nil (mark text : List Char) : splitOn mark text ≠ [] := by
  rw [splitOn]
  split
  · exact List.cons_ne_nil _ _
  · split
    · exact List.cons_ne_nil _ _
    · exact List.cons_ne_nil _ _

theorem splitOn_of_cut?_none (h : cut? mark text = none) :
    splitOn mark text = [text] := by
  rw [splitOn]
  split
  · rfl
  · split
    · rfl
    · next hcut => simp [h] at hcut

theorem splitOn_of_cut?_some (hmark : mark ≠ []) {before after : List Char}
    (h : cut? mark text = some (before, after)) :
    splitOn mark text = before :: splitOn mark after := by
  rw [splitOn, dif_neg hmark]
  split
  · next hcut => simp [h] at hcut
  · next hcut =>
      rw [h] at hcut
      cases hcut
      rfl

/-- The pieces with the marks between them are the text. -/
theorem intercalate_splitOn (mark text : List Char) :
    mark.intercalate (splitOn mark text) = text := by
  fun_induction splitOn mark text with
  | case1 text => exact List.intercalate_singleton
  | case2 text hmark hcut => exact List.intercalate_singleton
  | case3 text hmark before after hcut ih =>
      rw [List.intercalate_cons_of_ne_nil (splitOn_ne_nil _ _), ih]
      exact (cut?_sound hcut).symm

theorem infix_of_mem_splitOn {piece : List Char}
    (h : piece ∈ splitOn mark text) : piece <:+: text := by
  have hoccurs := @infix_intercalate mark _ _ h
  rwa [intercalate_splitOn] at hoccurs

/-- What stands before all marks goes to the first piece. -/
theorem splitOn_lead (hmark : mark ≠ []) (hlead : Passes mark lead text)
    (h : splitOn mark text = first :: pieces) :
    splitOn mark (lead ++ text) = (lead ++ first) :: pieces := by
  have hcut := cut?_append hlead
  cases htext : cut? mark text with
  | none =>
      rw [htext] at hcut
      rw [splitOn_of_cut?_none htext] at h
      rw [splitOn_of_cut?_none hcut]
      cases h
      rfl
  | some sides =>
      obtain ⟨before, after⟩ := sides
      rw [htext] at hcut
      rw [splitOn_of_cut?_some hmark htext] at h
      rw [splitOn_of_cut?_some hmark hcut]
      cases h
      rfl

/-- What stands after all marks goes to the last piece. -/
theorem exists_splitOn_append (hmark : mark ≠ []) (htrail : Avoids mark trail)
    (text : List Char) :
    ∃ front last, splitOn mark text = front ++ [last] ∧
      splitOn mark (text ++ trail) = front ++ [last ++ trail] := by
  cases htext : cut? mark text with
  | none =>
      refine ⟨[], text, splitOn_of_cut?_none htext, ?_⟩
      exact splitOn_of_passes
        (passes_trail hmark (not_isInfix_of_cut? hmark htext) htrail)
  | some sides =>
      obtain ⟨before, after⟩ := sides
      have hshorter := length_lt_of_cut? hmark htext
      obtain ⟨front, last, hafter, hmore⟩ :=
        exists_splitOn_append hmark htrail after
      refine ⟨before :: front, last, ?_, ?_⟩
      · rw [splitOn_of_cut?_some hmark htext, hafter, List.cons_append]
      · rw [splitOn_of_cut?_some hmark (cut?_more htext trail), hmore,
          List.cons_append]
termination_by text.length

end Cutting

section Surrounding

variable {text lead trail : List Char}

theorem contains_surrounded (hmark : mark ≠ []) (hlead : Avoids mark lead)
    (htrail : Avoids mark trail) (text : List Char) :
    contains mark (lead ++ text ++ trail) = contains mark text := by
  have hfront : cut? mark (lead ++ (text ++ trail)) = _ :=
    cut?_append (passes_of_avoids hmark hlead _)
  rw [List.append_assoc, contains, hfront, Option.isSome_map]
  cases htext : cut? mark text with
  | none =>
      rw [cut?_eq_none
        (passes_trail hmark (not_isInfix_of_cut? hmark htext) htrail),
        contains, htext]
  | some sides => rw [cut?_more htext trail, contains, htext]; rfl

/-- Blanks are no part of a mark without blanks. -/
theorem avoids_of_blank (hmark : ∀ character ∈ mark,
    isBlank character = false) {gap : List Char}
    (hgap : ∀ character ∈ gap, isBlank character = true) : Avoids mark gap := by
  intro character hcharacter
  exact not_mem_of_visible (hgap character hcharacter) hmark

theorem contains_trim (hne : mark ≠ [])
    (hmark : ∀ character ∈ mark, isBlank character = false)
    (text : List Char) : contains mark (trim text) = contains mark text := by
  obtain ⟨lead, trail, hlead, htrail, heq⟩ := exists_trim text
  have hall := contains_surrounded hne (avoids_of_blank hmark hlead)
    (avoids_of_blank hmark htrail) (trim text)
  rw [← heq] at hall
  exact hall.symm

/-- Blanks around a text stand around its first and its last piece. -/
theorem map_visibleLines_splitOn_trim (hne : mark ≠ [])
    (hmark : ∀ character ∈ mark, isBlank character = false)
    (text : List Char) :
    (splitOn mark (trim text)).map visibleLines =
      (splitOn mark text).map visibleLines := by
  obtain ⟨lead, trail, hlead, htrail, heq⟩ := exists_trim text
  obtain ⟨front, last, hinside, hmore⟩ :=
    exists_splitOn_append hne (avoids_of_blank hmark htrail) (trim text)
  obtain ⟨first, pieces, hpieces⟩ :=
    List.exists_cons_of_ne_nil (splitOn_ne_nil mark (trim text ++ trail))
  have hall := splitOn_lead hne
    (passes_of_avoids hne (avoids_of_blank hmark hlead) _) hpieces
  rw [← List.append_assoc, ← heq] at hall
  rw [hall, List.map_cons, visibleLines_lead hlead, ← List.map_cons, ← hpieces,
    hmore, hinside, List.map_append, List.map_append, List.map_singleton,
    List.map_singleton, visibleLines_trail htrail]

end Surrounding

section Separators

/-- A line that holds the mark holds nothing else. -/
def StandsAlone (mark line : List Char) : Prop :=
  mark <:+: line → trim line = mark

variable {text line : List Char}

private theorem map_visibleLines_separator (hne : mark ≠ [])
    (hmark : ∀ character ∈ mark, isBlank character = false)
    (hline : trim line = mark) (text : List Char) :
    (splitOn mark (line ++ '\n' :: text)).map visibleLines =
      [] :: (splitOn mark text).map visibleLines := by
  obtain ⟨lead, trail, hlead, htrail, heq⟩ := exists_trim line
  have hgap : ∀ character ∈ trail ++ ['\n'], isBlank character = true :=
    List.forall_mem_append.mpr ⟨htrail, List.forall_mem_singleton.mpr rfl⟩
  obtain ⟨first, pieces, hpieces⟩ :=
    List.exists_cons_of_ne_nil (splitOn_ne_nil mark text)
  have hrest := splitOn_lead hne
    (passes_of_avoids hne (avoids_of_blank hmark hgap) _) hpieces
  have hall : line ++ '\n' :: text =
      lead ++ mark ++ (trail ++ ['\n'] ++ text) := by
    rw [hline] at heq
    simp only [heq, List.append_assoc, List.singleton_append]
  rw [hall, splitOn_append hne
    (passes_of_avoids hne (avoids_of_blank hmark hlead) _), hrest, hpieces,
    List.map_cons, List.map_cons, List.map_cons, visibleLines_blank hlead,
    visibleLines_lead hgap]

private theorem splitOn_plainLine (hne : mark ≠ [])
    (hmark : ∀ character ∈ mark, isBlank character = false)
    (hline : ¬ mark <:+: line) {first : List Char} {pieces : List (List Char)}
    (htext : splitOn mark text = first :: pieces) :
    splitOn mark (line ++ '\n' :: text) =
      (line ++ '\n' :: first) :: pieces := by
  have hend : '\n' ∉ mark := not_mem_of_visible rfl hmark
  have hpasses : Passes mark (line ++ ['\n']) text := by
    refine passes_append.mpr ⟨passes_of_not_isInfix hline hend text, ?_⟩
    exact passes_of_avoids hne
      (avoids_of_blank hmark (List.forall_mem_singleton.mpr rfl)) text
  have hall := splitOn_lead hne hpasses htext
  rwa [List.append_assoc, List.append_assoc] at hall

/-- A line end is no part of a mark, so the texts above and below it are cut
for themselves, and the two pieces that meet there are one. -/
theorem splitOn_append_newline (hne : mark ≠ [])
    (hmark : ∀ character ∈ mark, isBlank character = false)
    {above below last first : List Char} {front rest : List (List Char)}
    (habove : splitOn mark above = front ++ [last])
    (hbelow : splitOn mark below = first :: rest) :
    splitOn mark (above ++ '\n' :: below) =
      front ++ (last ++ '\n' :: first) :: rest := by
  cases hcut : cut? mark above with
  | none =>
      rw [splitOn_of_cut?_none hcut] at habove
      obtain ⟨rfl, hlast⟩ | ⟨-, hnone⟩ :=
        List.append_eq_singleton_iff.mp habove.symm
      · obtain rfl := List.singleton_inj.mp hlast
        exact splitOn_plainLine hne hmark (not_isInfix_of_cut? hne hcut) hbelow
      · exact absurd hnone (List.cons_ne_nil last [])
  | some sides =>
      obtain ⟨before, after⟩ := sides
      have hshorter := length_lt_of_cut? hne hcut
      rw [splitOn_of_cut?_some hne hcut] at habove
      cases front with
      | nil =>
          exact absurd (List.cons.inj habove).2 (splitOn_ne_nil mark after)
      | cons piece front =>
          obtain ⟨rfl, hafter⟩ := List.cons.inj habove
          rw [splitOn_of_cut?_some hne (cut?_more hcut _),
            splitOn_append_newline hne hmark hafter hbelow]
          rfl
termination_by above.length

theorem intercalate_newline {lines : List (List Char)} (hne : lines ≠ []) :
    ['\n'].intercalate lines ++ ['\n'] = lines.flatMap (· ++ ['\n']) := by
  induction lines with
  | nil => contradiction
  | cons line lines ih =>
      cases lines with
      | nil => simp
      | cons next lines =>
          rw [List.intercalate_cons_cons, List.append_assoc, List.append_assoc,
            ih (List.cons_ne_nil _ _), List.flatMap_cons (x := line),
            List.append_assoc]

theorem intercalate_append {above below : List (List Char)} (habove : above ≠ [])
    (hbelow : below ≠ []) :
    ['\n'].intercalate (above ++ below) =
      ['\n'].intercalate above ++ '\n' :: ['\n'].intercalate below := by
  induction above with
  | nil => contradiction
  | cons line above ih =>
      cases above with
      | nil =>
          obtain ⟨first, rest, rfl⟩ := List.exists_cons_of_ne_nil hbelow
          rw [List.singleton_append, List.intercalate_cons_cons,
            List.intercalate_singleton, List.append_assoc,
            List.singleton_append]
      | cons next above =>
          rw [List.cons_append, List.cons_append, List.intercalate_cons_cons,
            List.intercalate_cons_cons, ← List.cons_append,
            ih (List.cons_ne_nil _ _), List.append_assoc, List.append_assoc,
            List.append_assoc]

private theorem map_visibleLines_flatMap (hne : mark ≠ [])
    (hmark : ∀ character ∈ mark, isBlank character = false)
    {lines : List (List Char)} (hlines : ∀ line ∈ lines, '\n' ∉ line)
    (halone : ∀ line ∈ lines, StandsAlone mark line) :
    (splitOn mark (lines.flatMap (· ++ ['\n']))).map visibleLines =
      (lines.splitOnP (trim · == mark)).map visible := by
  induction lines with
  | nil =>
      rw [List.flatMap_nil, splitOn_of_cut?_none rfl]
      rfl
  | cons line lines ih =>
      have hline := List.forall_mem_cons.mp hlines
      have hstands := List.forall_mem_cons.mp halone
      have hrest := ih hline.2 hstands.2
      rw [List.flatMap_cons, List.append_assoc, List.singleton_append,
        List.splitOnP_cons_eq_if_modifyHead]
      by_cases hmarked : trim line = mark
      · rw [map_visibleLines_separator hne hmark hmarked, hrest,
          if_pos (beq_iff_eq.mpr hmarked)]
        rfl
      · have hplain : ¬ mark <:+: line :=
          fun hoccurs => hmarked (hstands.1 hoccurs)
        obtain ⟨first, pieces, hpieces⟩ := List.exists_cons_of_ne_nil
          (splitOn_ne_nil mark (lines.flatMap (· ++ ['\n'])))
        obtain ⟨group, groups, hgroups⟩ := List.exists_cons_of_ne_nil
          (List.splitOnP_ne_nil (trim · == mark) lines)
        rw [hpieces, hgroups, List.map_cons, List.map_cons] at hrest
        obtain ⟨hfirst, hlater⟩ := List.cons.inj hrest
        rw [splitOn_plainLine hne hmark hplain hpieces, hgroups,
          if_neg (by simpa using hmarked), List.map_cons,
          visibleLines_append_cons, hfirst, hlater, visibleLines,
          lines_of_not_mem hline.1, ← visible_append]
        rfl

/-- What stands in a group of elements stood in the list. -/
theorem mem_of_mem_splitOnP {α : Type} {separates : α → Bool} {list : List α}
    {group : List α} (hgroup : group ∈ list.splitOnP separates) :
    ∀ element ∈ group, element ∈ list := by
  induction list generalizing group with
  | nil =>
      obtain rfl := List.mem_singleton.mp hgroup
      exact List.forall_mem_nil _
  | cons first list ih =>
      rw [List.splitOnP_cons_eq_if_modifyHead] at hgroup
      intro element helement
      split at hgroup
      · rcases List.mem_cons.mp hgroup with rfl | hlater
        · contradiction
        · exact List.mem_cons_of_mem _ (ih hlater element helement)
      · obtain ⟨head, groups, hgroups⟩ :=
          List.exists_cons_of_ne_nil (List.splitOnP_ne_nil separates list)
        rw [hgroups] at ih hgroup
        rcases List.mem_cons.mp hgroup with rfl | hlater
        · rcases List.mem_cons.mp helement with rfl | hinside
          · exact List.mem_cons_self
          · exact List.mem_cons_of_mem _
              (ih List.mem_cons_self element hinside)
        · exact List.mem_cons_of_mem _
            (ih (List.mem_cons_of_mem _ hlater) element helement)

section Groups

variable {α : Type} {separates : α → Bool} {separator : α}
  {groups : List (List α)}

theorem mem_of_mem_intercalate {separators : List α} {element : α}
    (h : element ∈ separators.intercalate groups) :
    element ∈ separators ∨ ∃ group ∈ groups, element ∈ group := by
  induction groups with
  | nil => exact absurd h List.not_mem_nil
  | cons group groups ih =>
      cases groups with
      | nil =>
          rw [List.intercalate_singleton] at h
          exact .inr ⟨group, List.mem_cons_self, h⟩
      | cons next groups =>
          rw [List.intercalate_cons_cons, List.mem_append, List.mem_append] at h
          rcases h with (hfirst | hseparator) | hlater
          · exact .inr ⟨group, List.mem_cons_self, hfirst⟩
          · exact .inl hseparator
          · exact (ih hlater).imp_right fun ⟨other, hother, hin⟩ =>
              ⟨other, List.mem_cons_of_mem _ hother, hin⟩

theorem mem_intercalate {element : α}
    (h : element ∈ [separator].intercalate groups) :
    element = separator ∨ ∃ group ∈ groups, element ∈ group :=
  (mem_of_mem_intercalate h).imp_left List.mem_singleton.mp

theorem splitOnP_intercalate (hseparator : separates separator = true)
    (hne : groups ≠ [])
    (hgroups : ∀ group ∈ groups, ∀ element ∈ group,
      separates element = false) :
    ([separator].intercalate groups).splitOnP separates = groups := by
  induction groups with
  | nil => contradiction
  | cons group groups ih =>
      obtain ⟨hgroup, hlater⟩ := List.forall_mem_cons.mp hgroups
      cases groups with
      | nil =>
          rw [List.intercalate_singleton, List.splitOnP_eq_singleton hgroup]
      | cons next groups =>
          rw [List.intercalate_cons_cons, List.append_assoc,
            List.singleton_append, List.splitOnP_append_cons_of_forall_mem
              hgroup separator hseparator, ih (List.cons_ne_nil _ _) hlater]

end Groups

theorem infix_of_trim_eq (h : trim line = mark) : mark <:+: line := by
  obtain ⟨lead, trail, -, -, heq⟩ := exists_trim line
  rw [h] at heq
  exact ⟨lead, trail, heq.symm⟩

/-- Marks on lines of their own cut a text into groups of lines. -/
theorem map_visibleLines_splitOn (hne : mark ≠ [])
    (hmark : ∀ character ∈ mark, isBlank character = false)
    {lines : List (List Char)} (hlines : ∀ line ∈ lines, '\n' ∉ line)
    (halone : ∀ line ∈ lines, StandsAlone mark line) :
    (splitOn mark (['\n'].intercalate lines)).map visibleLines =
      (lines.splitOnP (trim · == mark)).map visible := by
  rw [← map_visibleLines_flatMap hne hmark hlines halone]
  cases lines with
  | nil => rfl
  | cons line lines =>
      have htrail : Avoids mark ['\n'] :=
        avoids_of_blank hmark (List.forall_mem_singleton.mpr rfl)
      obtain ⟨front, last, htext, hmore⟩ := exists_splitOn_append hne htrail
        (['\n'].intercalate (line :: lines))
      rw [← intercalate_newline (List.cons_ne_nil line lines), hmore, htext,
        List.map_append, List.map_append, List.map_singleton,
        List.map_singleton,
        visibleLines_trail (List.forall_mem_singleton.mpr rfl)]

end Separators

end RightLinear.Text
