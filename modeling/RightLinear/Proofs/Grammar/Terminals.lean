import RightLinear.Proofs.Grammar.Tokens

/-! Terminals of grammars that are read from a text.  A token that is no
non-terminal is one character, so terminals are single characters that can be
seen. -/

namespace RightLinear.Grammar

open Text Document

theorem exists_ofWellFormed {description : Description} {grammar : Grammar}
    (h : ofDescription description = .ok grammar) :
    ∃ hformed : description.WellFormed,
      ofWellFormed description hformed = grammar := by
  unfold ofDescription at h
  split at h
  · contradiction
  · exact ⟨_, Except.ok.inj h⟩

section Declared

variable {lines : List (List Char)} {found : List Line}

theorem exists_readLine_of_rule (h : lines.mapM readLine = .ok found)
    {rule : Rule} (hrule : rule ∈ found.filterMap Line.rule?) :
    ∃ line ∈ lines, readLine line = .ok (.rule rule) := by
  obtain ⟨result, hresult, hsome⟩ := List.mem_filterMap.mp hrule
  obtain ⟨line, hline, hread⟩ := exists_mem_of_mapM h result hresult
  cases result with
  | blank => contradiction
  | start symbol => contradiction
  | rule other =>
      obtain rfl := Option.some.inj hsome
      exact ⟨line, hline, hread⟩

theorem exists_character_of_declared (h : lines.mapM readLine = .ok found)
    {terminal : String}
    (hterminal : terminal ∈ declaredTerminals (found.filterMap Line.rule?)) :
    ∃ character, isBlank character = false ∧
      terminal = String.singleton character := by
  obtain ⟨token, htoken, rfl⟩ := List.mem_map.mp hterminal
  obtain ⟨hmem, hkind⟩ := List.mem_filter.mp htoken
  obtain ⟨rule, hrule, hmem⟩ := List.mem_flatMap.mp hmem
  obtain ⟨line, -, hread⟩ := exists_readLine_of_rule h hrule
  obtain ⟨rest, hstands⟩ :=
    exists_stands_of_readRule (readRule_of_readLine hread) token hmem
  obtain ⟨character, hvisible, rfl⟩ := hstands.eq_singleton (by simpa using hkind)
  exact ⟨character, hvisible, rfl⟩

end Declared

/-- Where there are rules and none is empty, their productions and what they
describe are left to be checked. -/
theorem read_of_lines {text : String} {found : List Line}
    (hlines : (Text.lines text.toList).mapM readLine = .ok found)
    (hne : found.filterMap Line.rule? ≠ [])
    (hepsilon : epsilon ∉ declaredTerminals (found.filterMap Line.rule?)) :
    read text = (found.filterMap Line.rule?).mapM readProductions >>=
      fun productions => (ofDescription (description
        (found.filterMap Line.rule?) (givenStart? found)
          (gather productions))).mapError .fault := by
  have hnonempty := List.isEmpty_eq_false_iff.mpr hne
  rw [read, hlines]
  simp only [bind, Except.bind, hnonempty, if_neg hepsilon]
  rfl

/-- A text that is read gives the grammar that its rules describe. -/
theorem exists_description_of_read {text : String} {grammar : Grammar}
    (h : read text = .ok grammar) :
    ∃ found productions, (Text.lines text.toList).mapM readLine = .ok found ∧
      epsilon ∉ declaredTerminals (found.filterMap Line.rule?) ∧
      (found.filterMap Line.rule?).mapM readProductions = .ok productions ∧
        ∃ hformed : (description (found.filterMap Line.rule?)
            (givenStart? found) (gather productions)).WellFormed,
          ofWellFormed _ hformed = grammar := by
  rw [read] at h
  cases hlines : (Text.lines text.toList).mapM readLine with
  | error failure =>
      rw [hlines] at h
      contradiction
  | ok found =>
      rw [hlines] at h
      simp only [bind, Except.bind] at h
      split at h
      · contradiction
      · split at h
        · contradiction
        · next hepsilon =>
            cases hrules : (found.filterMap Line.rule?).mapM readProductions with
            | error failure =>
                rw [hrules] at h
                contradiction
            | ok productions =>
                rw [hrules] at h
                dsimp only at h
                cases hformed : ofDescription (description
                    (found.filterMap Line.rule?) (givenStart? found)
                    (gather productions)) with
                | error fault =>
                    rw [hformed] at h
                    contradiction
                | ok built =>
                    rw [hformed] at h
                    obtain rfl : built = grammar := Except.ok.inj h
                    exact ⟨found, productions, rfl, hepsilon, hrules,
                      exists_ofWellFormed hformed⟩

theorem unbroken_of_read {text : String} {grammar : Grammar}
    (h : read text = .ok grammar) :
    ∀ terminal ∈ grammar.terminals, Unbroken terminal := by
  obtain ⟨found, productions, hlines, -, -, hformed, rfl⟩ :=
    exists_description_of_read h
  intro terminal hterminal
  obtain ⟨character, hvisible, rfl⟩ :=
    exists_character_of_declared hlines (SortedSet.mem_ofList.mp hterminal)
  rw [Unbroken, String.toList_singleton]
  exact List.forall_mem_singleton.mpr hvisible

end RightLinear.Grammar
