import RightLinear.Conversion
import RightLinear.Proofs.Automaton.FreshName
import RightLinear.Proofs.Automaton.Path
import RightLinear.Proofs.Grammar.Derivation

/-! The automaton of a grammar.  Its paths into the final state are the
derivations: the final state is no non-terminal, so nothing leaves it, and it is
entered only by a production that ends. -/

namespace RightLinear.Grammar

theorem finalState_not_mem (grammar : Grammar) :
    ¬ grammar.finalState ∈ grammar.nonterminals :=
  freshName_not_mem _ _

variable {grammar : Grammar}

theorem automatonDescription_wellFormed (hlinear : grammar.IsRightLinear) :
    grammar.automatonDescription.WellFormed := by
  have hstate : ∀ {state}, state ∈ grammar.nonterminals →
      state ∈ grammar.automatonDescription.states :=
    fun hmem => List.mem_append_left _ hmem
  have hfinal :
      grammar.finalState ∈ grammar.automatonDescription.states :=
    List.mem_append_right _ (List.mem_singleton_self _)
  constructor
  · exact grammar.length_terminal
  · exact ⟨grammar.start, hstate grammar.start_mem, rfl⟩
  · intro state haccepting
    rw [List.mem_singleton.mp haccepting]
    exact hfinal
  · intro row hrow
    obtain ⟨transition, htransition, rfl⟩ := List.mem_map.mp hrow
    obtain ⟨⟨left, production⟩, hrule, rfl⟩ := List.mem_map.mp htransition
    rw [mem_ruleList] at hrule
    refine ⟨_, rfl, hstate (hlinear left (left_mem_names hrule)), ?_,
      terminal_mem_of_mem_productionsOf hrule⟩
    simp only [transitionOf]
    cases htarget : production.target with
    | none => exact hfinal
    | some target => exact hstate (target_mem_of_mem_productionsOf hrule htarget)

/-- The automaton that the description of the productions gives. -/
def recognizer (grammar : Grammar) (hlinear : grammar.IsRightLinear) :
    Automaton :=
  Automaton.ofWellFormed grammar.automatonDescription
    (automatonDescription_wellFormed hlinear)

theorem toAutomaton_eq_ok (hlinear : grammar.IsRightLinear) :
    grammar.toAutomaton = .ok (grammar.recognizer hlinear) := by
  have hnone : (grammar.rules.names.find? fun left =>
      decide (left ∉ grammar.nonterminals)) = none := by
    rw [List.find?_eq_none]
    intro left hleft
    simpa using hlinear left hleft
  rw [toAutomaton, hnone]
  simp only [Automaton.ofDescription_eq_ok
    (automatonDescription_wellFormed hlinear)]
  rfl

theorem exists_toAutomaton_eq_error (hlinear : ¬ grammar.IsRightLinear) :
    ∃ left ∈ grammar.rules.names, ¬ left ∈ grammar.nonterminals ∧
      grammar.toAutomaton = .error (.leftSide left) := by
  unfold toAutomaton
  cases hfind : grammar.rules.names.find? fun left =>
      decide (left ∉ grammar.nonterminals) with
  | none =>
      rw [List.find?_eq_none] at hfind
      exact absurd (fun left hleft => by simpa using hfind left hleft) hlinear
  | some left =>
      refine ⟨left, List.mem_of_find?_eq_some hfind, ?_, rfl⟩
      simpa using List.find?_some hfind

variable {hlinear : grammar.IsRightLinear}

theorem mem_transitions_recognizer {source symbol target : String} :
    ⟨source, symbol, target⟩ ∈ (grammar.recognizer hlinear).transitions ↔
      ∃ production ∈ grammar.productionsOf source,
        production.terminal = symbol ∧
          production.target.getD grammar.finalState = target := by
  rw [recognizer, Automaton.mem_transitions_ofWellFormed]
  apply Transition.row_mem_map_row.trans
  constructor
  · intro htransition
    obtain ⟨⟨left, production⟩, hrule, heq⟩ := List.mem_map.mp htransition
    cases heq
    exact ⟨production, mem_ruleList.mp hrule, rfl, rfl⟩
  · intro h
    obtain ⟨production, hproduction, rfl, rfl⟩ := h
    exact List.mem_map_of_mem (mem_ruleList.mpr hproduction)

theorem accepting_recognizer :
    (grammar.recognizer hlinear).accepting =
      SortedSet.singleton grammar.finalState := by
  ext state
  rw [recognizer, Automaton.mem_accepting_ofWellFormed, SortedSet.mem_singleton]
  exact List.mem_singleton

theorem source_ne_finalState {transition : Transition}
    (h : transition ∈ (grammar.recognizer hlinear).transitions) :
    transition.source ≠ grammar.finalState := by
  obtain ⟨production, hproduction, _⟩ := mem_transitions_recognizer.mp h
  have hsource := hlinear _ (left_mem_names hproduction)
  intro heq
  rw [heq] at hsource
  exact grammar.finalState_not_mem hsource

theorem path_from_finalState {word : List String} {target : String}
    (h : (grammar.recognizer hlinear).Path grammar.finalState word target) :
    word = [] := by
  cases h with
  | nil _ => rfl
  | cons first _ => exact absurd rfl (source_ne_finalState first)

theorem path_of_derivesFrom {left : String} {word : List String}
    (h : grammar.DerivesFrom left word) :
    (grammar.recognizer hlinear).Path left word grammar.finalState := by
  induction h with
  | ending last =>
      exact .cons (mem_transitions_recognizer.mpr ⟨_, last, rfl, rfl⟩) (.nil _)
  | continuing first _ ih =>
      exact .cons (mem_transitions_recognizer.mpr ⟨_, first, rfl, rfl⟩) ih

theorem derivesFrom_of_path {left : String} {word : List String}
    (h : (grammar.recognizer hlinear).Path left word grammar.finalState)
    (hleft : left ∈ grammar.nonterminals) : grammar.DerivesFrom left word := by
  induction word generalizing left with
  | nil =>
      rw [Automaton.path_nil_iff] at h
      rw [h] at hleft
      exact absurd hleft grammar.finalState_not_mem
  | cons symbol word ih =>
      rw [Automaton.path_cons_iff] at h
      obtain ⟨middle, first, rest⟩ := h
      obtain ⟨⟨terminal, target⟩, hproduction, rfl, rfl⟩ :=
        mem_transitions_recognizer.mp first
      cases target with
      | none =>
          rw [path_from_finalState rest]
          exact .ending hproduction
      | some next =>
          have hnext := target_mem_of_mem_productionsOf hproduction rfl
          exact .continuing hproduction (ih rest hnext)

theorem accepts_recognizer_iff {word : List String} :
    (grammar.recognizer hlinear).accepts word = true ↔
      grammar.Derives word := by
  rw [Automaton.accepts_iff, accepting_recognizer]
  simp only [SortedSet.mem_singleton, exists_eq_left]
  constructor
  · exact fun hpath => derivesFrom_of_path hpath grammar.start_mem
  · exact fun hderives => path_of_derivesFrom hderives

/-- Only a left-hand side that is no non-terminal stands in the way of an
automaton.  Where there is none, the automaton accepts the derived words, in a
state of its own that nothing leaves. -/
theorem toAutomaton_accepts_derived (grammar : Grammar) :
    ((∃ error, grammar.toAutomaton = .error error) ↔
      ∃ left ∈ grammar.rules.names, ¬ left ∈ grammar.nonterminals) ∧
      (grammar.IsRightLinear →
        ∃ automaton, grammar.toAutomaton = .ok automaton ∧
          (∀ word, automaton.accepts word = true ↔ grammar.Derives word) ∧
            automaton.accepting = SortedSet.singleton grammar.finalState ∧
              ¬ grammar.finalState ∈ grammar.nonterminals ∧
                ∀ transition ∈ automaton.transitions,
                  transition.source ≠ grammar.finalState) := by
  refine ⟨⟨?_, ?_⟩, ?_⟩
  · intro h
    obtain ⟨error, herror⟩ := h
    by_cases hlinear : grammar.IsRightLinear
    · rw [toAutomaton_eq_ok hlinear] at herror
      contradiction
    · obtain ⟨left, hleft, houtside, _⟩ := exists_toAutomaton_eq_error hlinear
      exact ⟨left, hleft, houtside⟩
  · intro h
    obtain ⟨left, hleft, houtside⟩ := h
    have hlinear : ¬ grammar.IsRightLinear :=
      fun hlinear => houtside (hlinear left hleft)
    obtain ⟨first, _, _, herror⟩ := exists_toAutomaton_eq_error hlinear
    exact ⟨.leftSide first, herror⟩
  · intro hlinear
    exact ⟨grammar.recognizer hlinear, toAutomaton_eq_ok hlinear,
      fun _ => accepts_recognizer_iff, accepting_recognizer,
      grammar.finalState_not_mem, fun _ => source_ne_finalState⟩

/-- A grammar that uses the first two names of the final state itself. -/
def crowdedGrammar : Grammar where
  nonterminals := SortedSet.ofList ["S", "X", "X\x27"]
  terminals := SortedSet.ofList ["a", "b"]
  rules := Registry.ofList
    [("S", [⟨"a", some "X"⟩]), ("X", [⟨"b", some "X\x27"⟩, ⟨"b", none⟩])]
  start := "S"
  length_terminal := by decide +kernel
  start_mem := by decide +kernel
  left_side := by
    intro left hleft
    apply isLeftSide_of_mem
    revert left
    decide +kernel
  terminal_mem := by decide +kernel
  target_mem := by decide +kernel

theorem crowdedGrammar_accepts_derived :
    crowdedGrammar.IsRightLinear ∧
      crowdedGrammar.finalState = "X\x27\x27" ∧
        ∃ automaton, crowdedGrammar.toAutomaton = .ok automaton ∧
          (∀ word, automaton.accepts word = true ↔
            crowdedGrammar.Derives word) ∧
            automaton.accepting = SortedSet.singleton crowdedGrammar.finalState ∧
              ¬ crowdedGrammar.finalState ∈ crowdedGrammar.nonterminals ∧
                ∀ transition ∈ automaton.transitions,
                  transition.source ≠ crowdedGrammar.finalState := by
  have hlinear : crowdedGrammar.IsRightLinear := by decide +kernel
  have hfinal : crowdedGrammar.finalState = "X\x27\x27" := by decide +kernel
  exact ⟨hlinear, hfinal,
    (toAutomaton_accepts_derived crowdedGrammar).2 hlinear⟩

end RightLinear.Grammar
