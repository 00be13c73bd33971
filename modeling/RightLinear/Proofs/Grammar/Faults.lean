import RightLinear.Proofs.Grammar.Gathering
import RightLinear.Proofs.Grammar.LeftSides

/-! What can be wrong with a grammar that is read from a text.  Its symbols are
declared by the tokens that mention them, and a token that is no non-terminal is
one character, so of all checks only those of the start symbol and of the
left-hand sides can fail. -/

namespace RightLinear.Grammar

open Text

namespace Document

theorem readRule_ne_fault (line : List Char) (fault : Fault) :
    readRule line ≠ .error (.fault fault) := by
  intro h
  rw [readRule] at h
  split at h
  · cases h
  · split at h
    · cases h
    · cases h

theorem readLine_ne_fault (line : List Char) (fault : Fault) :
    readLine line ≠ .error (.fault fault) := by
  intro h
  rw [readLine] at h
  split at h
  · cases h
  · split at h
    · cases h
    · split at h
      · cases h
      · cases hrule : readRule (withPlainArrows (trim (withoutComment line))) with
        | error failure =>
            rw [hrule] at h
            obtain rfl := Except.error.inj h
            exact readRule_ne_fault _ fault hrule
        | ok rule =>
            rw [hrule] at h
            cases h

theorem readProduction_ne_fault (left : String) (right : List Token)
    (fault : Fault) : readProduction left right ≠ .error (.fault fault) := by
  intro h
  unfold readProduction at h
  split at h
  · split at h
    · cases h
    · cases h
  · split at h
    · cases h
    · cases h
  · cases h

theorem readProductions_ne_fault (rule : Rule) (fault : Fault) :
    readProductions rule ≠ .error (.fault fault) := by
  intro h
  rw [readProductions] at h
  cases hall : rule.alternatives.mapM (readProduction rule.leftText) with
  | error failure =>
      rw [hall] at h
      obtain rfl := Except.error.inj h
      obtain ⟨right, -, hright⟩ := exists_of_mapM_eq_error hall
      exact readProduction_ne_fault _ right fault hright
  | ok productions =>
      rw [hall] at h
      cases h

/-- Symbols of a production that is read are tokens of its right-hand side. -/
theorem exists_tokens_of_readProduction {left : String} {right : List Token}
    {production : Production}
    (h : readProduction left right = .ok production) :
    (∃ token ∈ right, token.isNonterminal = false ∧
      token.symbol = production.terminal) ∧
    ∀ target, production.target = some target →
      ∃ token ∈ right, token.isNonterminal = true ∧ token.symbol = target := by
  unfold readProduction at h
  split at h
  · next terminal =>
      split at h
      · contradiction
      · next hkind =>
          obtain rfl := Except.ok.inj h
          exact ⟨⟨terminal, List.mem_cons_self, by simpa using hkind, rfl⟩, nofun⟩
  · next terminal target =>
      split at h
      · contradiction
      · next hkinds =>
          obtain rfl := Except.ok.inj h
          obtain ⟨hterminal, htarget⟩ : terminal.isNonterminal = false ∧
              target.isNonterminal = true := by simpa using hkinds
          refine ⟨⟨terminal, List.mem_cons_self, hterminal, rfl⟩, ?_⟩
          rintro _ ⟨⟩
          exact ⟨target, by simp, htarget, rfl⟩
  · contradiction

end Document

open Document

section Declared

variable {rules : List Rule} {productions : List (String × List Production)}

theorem eq_of_readProductions {rule : Rule} {entry : String × List Production}
    (h : readProductions rule = .ok entry) :
    entry.1 = rule.leftText ∧
      rule.alternatives.mapM (readProduction rule.leftText) = .ok entry.2 := by
  rw [readProductions] at h
  cases hall : rule.alternatives.mapM (readProduction rule.leftText) with
  | error failure =>
      rw [hall] at h
      contradiction
  | ok found =>
      rw [hall] at h
      obtain rfl := Except.ok.inj h
      exact ⟨rfl, rfl⟩

/-- Every symbol of a production is declared by the token it is read from. -/
theorem declared_of_mem_gather (h : rules.mapM readProductions = .ok productions)
    {rule : String × List Production}
    (hrule : rule ∈ (gather productions).entries) {production : Production}
    (hproduction : production ∈ rule.2) :
    production.terminal ∈ declaredTerminals rules ∧
      ∀ target, production.target = some target →
        target ∈ declaredNonterminals rules := by
  obtain ⟨entry, hentry, -, hin⟩ := mem_gather hrule hproduction
  obtain ⟨source, hsource, hread⟩ := exists_mem_of_mapM h entry hentry
  obtain ⟨right, hright, hstep⟩ :=
    exists_mem_of_mapM (eq_of_readProductions hread).2 production hin
  have hmem : ∀ token ∈ right, token ∈ rules.flatMap Rule.tokens := by
    intro token htoken
    refine List.mem_flatMap.mpr ⟨source, hsource, List.mem_append_right _ ?_⟩
    exact List.mem_flatten.mpr ⟨right, hright, htoken⟩
  obtain ⟨⟨terminal, hterminal, hkind, hsymbol⟩, htargets⟩ :=
    exists_tokens_of_readProduction hstep
  constructor
  · rw [← hsymbol]
    exact List.mem_map_of_mem
      (List.mem_filter.mpr ⟨hmem terminal hterminal, by simp [hkind]⟩)
  · intro target htarget
    obtain ⟨token, htoken, hkind, rfl⟩ := htargets target htarget
    exact List.mem_map_of_mem (List.mem_filter.mpr ⟨hmem token htoken, hkind⟩)

end Declared

section Checks

variable {description : Description} {fault : Fault}

theorem fault?_of_ofDescription (h : ofDescription description = .error fault) :
    description.fault? = some fault := by
  unfold ofDescription at h
  split at h
  · next found hfound =>
      obtain rfl := Except.error.inj h
      exact hfound
  · contradiction

theorem eq_leftSide_of_leftSideFault? {left : String}
    (h : description.leftSideFault? left = some fault) :
    fault = .leftSide left := by
  unfold Description.leftSideFault? at h
  split at h
  · split at h
    · contradiction
    · exact (Option.some.inj h).symm
  · exact (Option.some.inj h).symm

theorem eq_start_of_startFault? (h : description.startFault? = some fault) :
    fault = .start description.start := by
  unfold Description.startFault? at h
  split at h
  · contradiction
  · exact (Option.some.inj h).symm

/-- Where terminals are characters and productions declared, only the start
symbol and the left-hand sides are left to be wrong. -/
theorem fault_of_declared
    (hlength : ∀ terminal ∈ description.terminals, terminal.length = 1)
    (hdeclared : ∀ rule ∈ description.rules.entries, ∀ production ∈ rule.2,
      production.terminal ∈ description.terminals ∧
        ∀ target, production.target = some target →
          target ∈ description.nonterminals)
    (h : description.fault? = some fault) :
    fault = .start description.start ∨
      ∃ left ∈ description.rules.names, fault = .leftSide left := by
  have hterminals :
      description.terminals.findSome? Description.terminalFault? = none := by
    rw [List.findSome?_eq_none_iff]
    intro terminal hterminal
    exact if_pos (hlength terminal hterminal)
  simp only [Description.fault?, hterminals, Option.orElse_eq_orElse,
    Option.orElse_eq_or, Option.none_or, Option.or_eq_some_iff] at h
  rcases h with hstart | ⟨-, hrules⟩
  · exact .inl (eq_start_of_startFault? hstart)
  · obtain ⟨rule, hrule, hfault⟩ := List.exists_of_findSome?_eq_some hrules
    have hproductions :
        rule.2.findSome? (description.productionFault? rule.1) = none := by
      rw [List.findSome?_eq_none_iff]
      intro production hproduction
      exact Description.productionFault?_eq_none_iff.mpr
        (hdeclared rule hrule production hproduction)
    rw [Description.ruleFault?, hproductions, Option.orElse_eq_orElse,
      Option.orElse_eq_or, Option.or_none] at hfault
    exact .inr ⟨rule.1, List.mem_map_of_mem hrule,
      eq_leftSide_of_leftSideFault? hfault⟩

end Checks

/-- A text is refused for a fault of its grammar only after all its lines and
productions have been read. -/
theorem exists_description_of_fault {text : String} {fault : Fault}
    (h : read text = .error (.fault fault)) :
    ∃ found productions, (Text.lines text.toList).mapM readLine = .ok found ∧
      (found.filterMap Line.rule?).mapM readProductions = .ok productions ∧
        (description (found.filterMap Line.rule?) (givenStart? found)
          (gather productions)).fault? = some fault := by
  rw [read] at h
  cases hlines : (Text.lines text.toList).mapM readLine with
  | error failure =>
      rw [hlines] at h
      obtain rfl := Except.error.inj h
      obtain ⟨line, -, hline⟩ := exists_of_mapM_eq_error hlines
      exact absurd hline (readLine_ne_fault line fault)
  | ok found =>
      rw [hlines] at h
      simp only [bind, Except.bind] at h
      split at h
      · cases h
      · split at h
        · cases h
        · cases hrules : (found.filterMap Line.rule?).mapM readProductions with
          | error failure =>
              rw [hrules] at h
              obtain rfl := Except.error.inj h
              obtain ⟨rule, -, hrule⟩ := exists_of_mapM_eq_error hrules
              exact absurd hrule (readProductions_ne_fault rule fault)
          | ok productions =>
              rw [hrules] at h
              dsimp only at h
              cases hbuilt : ofDescription (description
                  (found.filterMap Line.rule?) (givenStart? found)
                  (gather productions)) with
              | error other =>
                  rw [hbuilt] at h
                  cases h
                  exact ⟨found, productions, rfl, hrules,
                    fault?_of_ofDescription hbuilt⟩
              | ok built =>
                  rw [hbuilt] at h
                  cases h

theorem fault_of_read {text : String} {fault : Fault}
    (h : read text = .error (.fault fault)) :
    (∃ symbol, fault = .start symbol) ∨ ∃ left, fault = .leftSide left := by
  obtain ⟨found, productions, hlines, hrules, hfault⟩ :=
    exists_description_of_fault h
  have hlength : ∀ terminal ∈ declaredTerminals (found.filterMap Line.rule?),
      terminal.length = 1 := by
    intro terminal hterminal
    obtain ⟨character, -, rfl⟩ := exists_character_of_declared hlines hterminal
    exact String.length_singleton
  have hdeclared : ∀ rule ∈ (gather productions).entries,
      ∀ production ∈ rule.2,
        production.terminal ∈ declaredTerminals (found.filterMap Line.rule?) ∧
          ∀ target, production.target = some target → target ∈
            (givenStart? found).toList ++
              declaredNonterminals (found.filterMap Line.rule?) := by
    intro rule hrule production hproduction
    obtain ⟨hterminal, htarget⟩ := declared_of_mem_gather hrules hrule hproduction
    exact ⟨hterminal, fun target hsome =>
      List.mem_append_right _ (htarget target hsome)⟩
  rcases fault_of_declared hlength hdeclared hfault with hstart | ⟨left, -, hleft⟩
  · exact .inl ⟨_, hstart⟩
  · exact .inr ⟨left, hleft⟩

section Named

variable {lines : List (List Char)} {found : List Line}
  {productions : List (String × List Production)}

/-- Where every left-hand side has a non-terminal, nothing is wrong. -/
theorem wellFormed_of_named (hlines : lines.mapM readLine = .ok found)
    (hrules : (found.filterMap Line.rule?).mapM readProductions =
      .ok productions)
    (hne : found.filterMap Line.rule? ≠ [])
    (hnamed : ∀ rule ∈ found.filterMap Line.rule?, ∃ token ∈ rule.left,
      token.isNonterminal = true) :
    (description (found.filterMap Line.rule?) (givenStart? found)
      (gather productions)).WellFormed where
  length_terminal := by
    intro terminal hterminal
    obtain ⟨character, -, rfl⟩ := exists_character_of_declared hlines hterminal
    exact String.length_singleton
  start_mem := by
    obtain ⟨rule, later, hfirst⟩ := List.exists_cons_of_ne_nil hne
    obtain ⟨token, htoken, hkind⟩ := hnamed rule (by simp [hfirst])
    have hdeclared : token.symbol ∈
        declaredNonterminals (found.filterMap Line.rule?) := by
      refine List.mem_map_of_mem (List.mem_filter.mpr ⟨?_, hkind⟩)
      exact List.mem_flatMap.mpr
        ⟨rule, by simp [hfirst], List.mem_append_left _ htoken⟩
    cases hstart : givenStart? found with
    | none => exact usualStart_mem (List.ne_nil_of_mem hdeclared) _
    | some symbol => exact List.mem_cons_self
  left_side := by
    intro left hleft
    rw [description, names_gather, List.mem_eraseDups] at hleft
    obtain ⟨entry, hentry, rfl⟩ := List.mem_map.mp hleft
    obtain ⟨rule, hrule, hread⟩ := exists_mem_of_mapM hrules entry hentry
    obtain ⟨line, -, hline⟩ := exists_readLine_of_rule hlines hrule
    obtain ⟨token, htoken, hkind⟩ := hnamed rule hrule
    have hmem : ∀ token ∈ rule.left,
        token ∈ (found.filterMap Line.rule?).flatMap Rule.tokens :=
      fun token htoken => List.mem_flatMap.mpr
        ⟨rule, hrule, List.mem_append_left _ htoken⟩
    rw [(eq_of_readProductions hread).1]
    refine isLeftSide_join ?_ (List.forall_mem_map.mpr ?_)
      (List.forall_mem_map.mpr ?_) (List.mem_map_of_mem htoken) ?_
    · intro terminal hterminal
      obtain ⟨character, -, rfl⟩ := exists_character_of_declared hlines
        (SortedSet.mem_ofList.mp hterminal)
      exact String.length_singleton
    · intro other hother
      rcases symbol_mem_declared (hmem other hother) with hname | hterminal
      · exact .inl (SortedSet.mem_ofList.mpr (List.mem_append_right _ hname))
      · exact .inr (SortedSet.mem_ofList.mpr hterminal)
    · exact fun other hother =>
        ((left_of_readLine hline).2 other hother).symbol_ne_empty
    · exact SortedSet.mem_ofList.mpr (List.mem_append_right _ (List.mem_map_of_mem
        (List.mem_filter.mpr ⟨hmem token htoken, hkind⟩)))
  terminal_mem := by
    intro rule hrule production hproduction
    exact (declared_of_mem_gather hrules hrule hproduction).1
  target_mem := by
    intro rule hrule production hproduction target htarget
    exact List.mem_append_right _
      ((declared_of_mem_gather hrules hrule hproduction).2 target htarget)

end Named

/-- Every text is its tokens with blanks around them, in exactly one way.  All
characters that can be seen are in the tokens, tokens that are no non-terminals
are single characters, and so a text is never refused for a terminal or for a
symbol that a production mentions. -/
theorem tokens_lose_nothing (text : String) :
    (∀ found, tokens text.toList = found ↔ Tokenized found text.toList) ∧
    ((tokens text.toList).flatMap (·.written.toList)).filter (!isBlank ·) =
      text.toList.filter (!isBlank ·) ∧
    (∀ token ∈ tokens text.toList, token.isNonterminal = false →
      ∃ character, isBlank character = false ∧
        token = .plain (String.singleton character)) ∧
    ∀ fault, read text = .error (.fault fault) →
      (∃ symbol, fault = .start symbol) ∨ ∃ left, fault = .leftSide left := by
  have htokens := tokenized_tokens text.toList
  refine ⟨fun found => tokens_eq_iff, htokens.visible_eq, ?_,
    fun fault => fault_of_read⟩
  intro token htoken hterminal
  obtain ⟨rest, hstands⟩ := htokens.exists_stands token htoken
  exact hstands.eq_singleton hterminal

end RightLinear.Grammar
