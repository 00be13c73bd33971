import RightLinear.Proofs.Text.Marks

/-! Replacing one character.  It is done character by character, so nothing
that shares no character with the substitute appears or disappears. -/

namespace RightLinear.Text

variable {mark character : Char} {substitute lead text : List Char}

section Characters

theorem replace_nil (mark substitute : List Char) :
    replace mark substitute [] = [] := by
  rw [replace, splitOn_of_cut?_none rfl, List.intercalate_singleton]

theorem replace_mark (mark : Char) (substitute text : List Char) :
    replace [mark] substitute (mark :: text) =
      substitute ++ replace [mark] substitute text := by
  have hcut : cut? [mark] (mark :: text) = some ([], text) :=
    cut?_mark (List.cons_ne_nil mark []) text
  rw [replace, splitOn_of_cut?_some (List.cons_ne_nil _ _) hcut,
    List.intercalate_cons_of_ne_nil (splitOn_ne_nil _ _), List.nil_append,
    ← replace]

theorem replace_cons_of_ne (h : character ≠ mark) (substitute text : List Char) :
    replace [mark] substitute (character :: text) =
      character :: replace [mark] substitute text := by
  obtain ⟨first, pieces, hpieces⟩ :=
    List.exists_cons_of_ne_nil (splitOn_ne_nil [mark] text)
  have hpasses : Passes [mark] [character] text :=
    passes_of_not_mem (by simpa using h.symm) [] text
  have hsplit := splitOn_lead (List.cons_ne_nil _ _) hpasses hpieces
  rw [List.singleton_append, List.singleton_append] at hsplit
  rw [replace, replace, hsplit, hpieces]
  cases pieces with
  | nil => rw [List.intercalate_singleton, List.intercalate_singleton]
  | cons next pieces =>
      rw [List.intercalate_cons_cons, List.intercalate_cons_cons]
      rfl

end Characters

theorem replace_of_not_mem (h : mark ∉ text) (substitute : List Char) :
    replace [mark] substitute text = text :=
  replace_of_passes (passes_of_not_mem h [] []) substitute

/-- Nothing stands in the result that is neither in the text nor in the
substitute. -/
theorem mem_replace {marks : List Char}
    (h : character ∈ replace marks substitute text) :
    character ∈ substitute ∨ character ∈ text := by
  rcases mem_of_mem_intercalate h with hsubstitute | ⟨piece, hpiece, hin⟩
  · exact .inl hsubstitute
  · exact .inr ((infix_of_mem_splitOn hpiece).subset hin)

theorem not_mem_replace (h : mark ∉ substitute) (text : List Char) :
    mark ∉ replace [mark] substitute text := by
  induction text with
  | nil =>
      rw [replace_nil]
      exact List.not_mem_nil
  | cons first text ih =>
      by_cases hfirst : first = mark
      · subst hfirst
        rw [replace_mark, List.mem_append, not_or]
        exact ⟨h, ih⟩
      · rw [replace_cons_of_ne hfirst, List.mem_cons, not_or]
        exact ⟨Ne.symm hfirst, ih⟩

section Infixes

variable {other : List Char}

theorem infix_of_avoids_append (hne : other ≠ []) (hlead : Avoids other lead)
    (h : other <:+: lead ++ text) : other <:+: text := by
  induction lead with
  | nil => exact h
  | cons character lead ih =>
      obtain ⟨hfirst, hlater⟩ := avoids_cons.mp hlead
      rcases List.infix_cons_iff.mp h with hbegins | hoccurs
      · obtain ⟨first, other, rfl⟩ := List.exists_cons_of_ne_nil hne
        obtain ⟨rfl, -⟩ := List.cons_prefix_cons.mp hbegins
        exact absurd List.mem_cons_self hfirst
      · exact ih hlater hoccurs

theorem prefix_of_prefix_replace (hne : substitute ≠ [])
    (hsubstitute : Avoids other substitute)
    (h : other <+: replace [mark] substitute text) : other <+: text := by
  induction text generalizing other with
  | nil => rwa [replace_nil] at h
  | cons character text ih =>
      cases other with
      | nil => exact List.nil_prefix
      | cons first other =>
          by_cases hmark : character = mark
          · subst hmark
            obtain ⟨lead, substitute, rfl⟩ := List.exists_cons_of_ne_nil hne
            rw [replace_mark] at h
            obtain ⟨rfl, -⟩ := List.cons_prefix_cons.mp h
            exact absurd List.mem_cons_self
              (hsubstitute first List.mem_cons_self)
          · rw [replace_cons_of_ne hmark] at h
            obtain ⟨rfl, hlater⟩ := List.cons_prefix_cons.mp h
            refine List.cons_prefix_cons.mpr ⟨rfl, ih ?_ hlater⟩
            exact fun character hin => fun hother =>
              hsubstitute character hin (List.mem_cons_of_mem _ hother)

/-- A mark of other characters is not made by a replacement. -/
theorem infix_of_infix_replace (hne : substitute ≠ []) (hother : other ≠ [])
    (hsubstitute : Avoids other substitute)
    (h : other <:+: replace [mark] substitute text) : other <:+: text := by
  induction text with
  | nil => rwa [replace_nil] at h
  | cons character text ih =>
      by_cases hmark : character = mark
      · subst hmark
        rw [replace_mark] at h
        exact List.infix_cons (ih (infix_of_avoids_append hother hsubstitute h))
      · rw [replace_cons_of_ne hmark] at h
        rcases List.infix_cons_iff.mp h with hbegins | hoccurs
        · rw [← replace_cons_of_ne hmark] at hbegins
          exact (prefix_of_prefix_replace hne hsubstitute hbegins).isInfix
        · exact List.infix_cons (ih hoccurs)

end Infixes

end RightLinear.Text
