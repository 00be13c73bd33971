import RightLinear.Conversion
import RightLinear.Proofs.Automaton.Path
import RightLinear.Proofs.Grammar.Derivation

/-! The grammar of an automaton.  Its derivations are the paths into accepting
states, less the empty one: a production continues as a transition does, and
ends where the transition enters an accepting state. -/

namespace RightLinear.Automaton

variable {automaton : Automaton} {source : String}

theorem mem_addProductions {production : Production}
    {productions : List Production} {transition : Transition} :
    production ∈ automaton.addProductions productions transition ↔
      production ∈ productions ∨ production = continuing transition ∨
        transition.target ∈ automaton.accepting ∧
          production = ending transition := by
  unfold addProductions
  split
  · next hadded => simp [hadded.1]
  · next hshared =>
      have hearlier : transition.target ∈ automaton.accepting →
          ending transition ∈ productions := by
        intro haccepting
        apply Classical.byContradiction
        exact fun hnew => hshared ⟨haccepting, hnew⟩
      rw [List.mem_append, List.mem_singleton]
      constructor
      · intro h
        rcases h with hold | hcontinuing
        · exact .inl hold
        · exact .inr (.inl hcontinuing)
      · intro h
        rcases h with hold | hcontinuing | ⟨haccepting, hending⟩
        · exact .inl hold
        · exact .inr hcontinuing
        · rw [hending]
          exact .inl (hearlier haccepting)

theorem mem_foldl_addProductions {production : Production}
    {productions : List Production} {transitions : List Transition} :
    production ∈ transitions.foldl automaton.addProductions productions ↔
      production ∈ productions ∨ ∃ transition ∈ transitions,
        production = continuing transition ∨
          transition.target ∈ automaton.accepting ∧
            production = ending transition := by
  induction transitions generalizing productions with
  | nil => simp
  | cons transition transitions ih =>
      rw [List.foldl_cons, ih, mem_addProductions, or_assoc]
      simp only [List.mem_cons, exists_eq_or_imp]

theorem mem_productionsFrom {production : Production} :
    production ∈ automaton.productionsFrom source ↔
      ∃ transition ∈ automaton.transitions, transition.source = source ∧
        (production = continuing transition ∨
          transition.target ∈ automaton.accepting ∧
            production = ending transition) := by
  rw [productionsFrom, mem_foldl_addProductions]
  simp only [List.not_mem_nil, false_or, List.mem_filter, beq_iff_eq, and_assoc,
    SortedSet.mem_toList]

theorem continuing_mem_productionsFrom {symbol target : String} :
    ⟨symbol, some target⟩ ∈ automaton.productionsFrom source ↔
      ⟨source, symbol, target⟩ ∈ automaton.transitions := by
  rw [mem_productionsFrom]
  constructor
  · intro h
    obtain ⟨transition, hmem, rfl, hcontinuing | ⟨_, hending⟩⟩ := h
    · cases hcontinuing
      exact hmem
    · cases hending
  · intro hmem
    exact ⟨_, hmem, rfl, .inl rfl⟩

theorem ending_mem_productionsFrom {symbol : String} :
    ⟨symbol, none⟩ ∈ automaton.productionsFrom source ↔
      ∃ target ∈ automaton.accepting,
        ⟨source, symbol, target⟩ ∈ automaton.transitions := by
  rw [mem_productionsFrom]
  constructor
  · intro h
    obtain ⟨transition, hmem, rfl, hcontinuing | ⟨haccepting, hending⟩⟩ := h
    · cases hcontinuing
    · cases hending
      exact ⟨_, haccepting, hmem⟩
  · intro h
    obtain ⟨target, haccepting, hmem⟩ := h
    exact ⟨_, hmem, rfl, .inr ⟨haccepting, rfl⟩⟩

/-- What a production from a state mentions is declared. -/
theorem declared_of_mem_productionsFrom {production : Production}
    (h : production ∈ automaton.productionsFrom source) :
    production.terminal ∈ automaton.alphabet ∧
      ∀ target, production.target = some target →
        target ∈ automaton.states := by
  obtain ⟨transition, hmem, _, hcontinuing | ⟨_, hending⟩⟩ :=
    mem_productionsFrom.mp h
  · rw [hcontinuing]
    refine ⟨automaton.symbol_mem _ hmem, ?_⟩
    intro target htarget
    cases htarget
    exact automaton.target_mem _ hmem
  · rw [hending]
    refine ⟨automaton.symbol_mem _ hmem, ?_⟩
    intro target htarget
    cases htarget

theorem mem_entries_grammarRules {productions : List Production} :
    (source, productions) ∈ automaton.grammarRules.entries ↔
      source ∈ automaton.states ∧
        automaton.productionsFrom source = productions := by
  simp only [grammarRules, List.mem_map, SortedSet.mem_toList, Prod.mk.injEq]
  constructor
  · intro h
    obtain ⟨state, hstate, rfl, hproductions⟩ := h
    exact ⟨hstate, hproductions⟩
  · intro h
    exact ⟨source, h.1, rfl, h.2⟩

/-- A state is read as a left-hand side whatever characters its label has, for a
text that is a non-terminal is not split. -/
theorem grammarDescription_wellFormed (automaton : Automaton) :
    automaton.grammarDescription.WellFormed := by
  constructor
  · exact automaton.length_symbol
  · exact automaton.start_mem
  · intro left hleft
    obtain ⟨⟨_, productions⟩, hentry, rfl⟩ := List.mem_map.mp hleft
    apply Grammar.isLeftSide_of_mem
    exact SortedSet.mem_ofList.mpr (mem_entries_grammarRules.mp hentry).1
  · intro rule hrule production hproduction
    rw [← (mem_entries_grammarRules.mp hrule).2] at hproduction
    exact (declared_of_mem_productionsFrom hproduction).1
  · intro rule hrule production hproduction
    rw [← (mem_entries_grammarRules.mp hrule).2] at hproduction
    exact (declared_of_mem_productionsFrom hproduction).2

/-- The grammar that the description of the transitions gives. -/
def grammar (automaton : Automaton) : Grammar :=
  Grammar.ofWellFormed automaton.grammarDescription
    automaton.grammarDescription_wellFormed

theorem toGrammar_eq_ok (automaton : Automaton) :
    automaton.toGrammar = .ok automaton.grammar :=
  Grammar.ofDescription_eq_ok automaton.grammarDescription_wellFormed

theorem mem_productionsOf_grammar {production : Production} :
    production ∈ automaton.grammar.productionsOf source ↔
      production ∈ automaton.productionsFrom source := by
  rw [Grammar.mem_productionsOf]
  change (∃ productions, (source, productions) ∈
    automaton.grammarRules.entries ∧ production ∈ productions) ↔ _
  simp only [mem_entries_grammarRules]
  constructor
  · intro h
    obtain ⟨_, ⟨_, rfl⟩, hproduction⟩ := h
    exact hproduction
  · intro hproduction
    obtain ⟨transition, hmem, rfl, _⟩ := mem_productionsFrom.mp hproduction
    exact ⟨_, ⟨automaton.source_mem _ hmem, rfl⟩, hproduction⟩

theorem path_of_derivesFrom {word : List String}
    (h : automaton.grammar.DerivesFrom source word) :
    ∃ target ∈ automaton.accepting, automaton.Path source word target := by
  induction h with
  | ending last =>
      rw [mem_productionsOf_grammar, ending_mem_productionsFrom] at last
      obtain ⟨target, haccepting, hmem⟩ := last
      exact ⟨target, haccepting, .cons hmem (.nil target)⟩
  | continuing first _ ih =>
      rw [mem_productionsOf_grammar, continuing_mem_productionsFrom] at first
      obtain ⟨target, haccepting, hpath⟩ := ih
      exact ⟨target, haccepting, .cons first hpath⟩

theorem derivesFrom_of_path {target : String} {word : List String}
    (h : automaton.Path source word target)
    (haccepting : target ∈ automaton.accepting) (hword : word ≠ []) :
    automaton.grammar.DerivesFrom source word := by
  induction h with
  | nil _ => contradiction
  | cons first rest ih =>
      cases rest with
      | nil _ =>
          apply Grammar.DerivesFrom.ending
          rw [mem_productionsOf_grammar, ending_mem_productionsFrom]
          exact ⟨_, haccepting, first⟩
      | cons second later =>
          apply Grammar.DerivesFrom.continuing
          · rw [mem_productionsOf_grammar, continuing_mem_productionsFrom]
            exact first
          · exact ih haccepting (List.cons_ne_nil _ _)

theorem derives_grammar_iff {word : List String} :
    automaton.grammar.Derives word ↔
      word ≠ [] ∧ automaton.accepts word = true := by
  rw [accepts_iff]
  constructor
  · intro h
    exact ⟨h.ne_nil, path_of_derivesFrom h⟩
  · intro h
    obtain ⟨hword, target, haccepting, hpath⟩ := h
    exact derivesFrom_of_path hpath haccepting hword

/-- Every automaton has a grammar, and only the empty word can be lost. -/
theorem toGrammar_derives_accepted (automaton : Automaton) :
    ∃ grammar, automaton.toGrammar = .ok grammar ∧
      ∀ word, grammar.Derives word ↔
        word ≠ [] ∧ automaton.accepts word = true :=
  ⟨automaton.grammar, automaton.toGrammar_eq_ok, fun _ => derives_grammar_iff⟩

end RightLinear.Automaton
