import RightLinear.Proofs.Conversion.Listing
import RightLinear.Proofs.Conversion.ToAutomaton

/-! The grammar of the automaton of a grammar.  The final state comes back as a
non-terminal that has no productions: wherever a derivation could end, it can
also go on to there, and no further.  So nothing is derived that was not. -/

namespace RightLinear.Grammar

/-- `again` is `grammar` with one more non-terminal, which is a dead end that
can be taken wherever a derivation can end. -/
structure AddsDeadEnd (grammar again : Grammar) (final : String) : Prop where
  final_not_mem : final ∉ grammar.nonterminals
  nonterminals : again.nonterminals = grammar.nonterminals.insert final
  terminals : again.terminals = grammar.terminals
  start : again.start = grammar.start
  names : again.rules.names = again.nonterminals.toList
  productionsOf_final : again.productionsOf final = []
  ending_mem_iff : ∀ left ∈ grammar.nonterminals, ∀ terminal,
    ⟨terminal, none⟩ ∈ again.productionsOf left ↔
      ⟨terminal, none⟩ ∈ grammar.productionsOf left
  continuing_mem_iff : ∀ left ∈ grammar.nonterminals, ∀ terminal target,
    ⟨terminal, some target⟩ ∈ again.productionsOf left ↔
      ⟨terminal, some target⟩ ∈ grammar.productionsOf left ∨
        target = final ∧ ⟨terminal, none⟩ ∈ grammar.productionsOf left

variable {grammar again : Grammar} {left : String} {word : List String}

namespace AddsDeadEnd

variable {final : String}

theorem not_derivesFrom_final (h : AddsDeadEnd grammar again final) :
    ¬ again.DerivesFrom final word := by
  have hnone : ∀ production, production ∉ again.productionsOf final := by
    intro production
    rw [h.productionsOf_final]
    exact List.not_mem_nil
  intro hderives
  cases hderives with
  | ending last => exact hnone _ last
  | continuing first _ => exact hnone _ first

theorem derivesFrom_iff (h : AddsDeadEnd grammar again final)
    (hleft : left ∈ grammar.nonterminals) :
    again.DerivesFrom left word ↔ grammar.DerivesFrom left word := by
  constructor
  · intro hderives
    induction hderives with
    | ending last => exact .ending ((h.ending_mem_iff _ hleft _).mp last)
    | @continuing left terminal next word first rest ih =>
        rcases (h.continuing_mem_iff _ hleft _ _).mp first with hkept | hadded
        · have hnext := target_mem_of_mem_productionsOf hkept rfl
          exact .continuing hkept (ih hnext)
        · rw [hadded.1] at rest
          exact absurd rest h.not_derivesFrom_final
  · intro hderives
    induction hderives with
    | ending last => exact .ending ((h.ending_mem_iff _ hleft _).mpr last)
    | continuing first _ ih =>
        have hnext := target_mem_of_mem_productionsOf first rfl
        exact .continuing ((h.continuing_mem_iff _ hleft _ _).mpr (.inl first))
          (ih hnext)

theorem derives_iff (h : AddsDeadEnd grammar again final) :
    again.Derives word ↔ grammar.Derives word := by
  rw [Derives, h.start]
  exact h.derivesFrom_iff grammar.start_mem

end AddsDeadEnd

section Recognizer

variable {hlinear : grammar.IsRightLinear} {terminal target : String}

theorem mem_accepting_recognizer :
    target ∈ (grammar.recognizer hlinear).accepting ↔
      target = grammar.finalState := by
  rw [accepting_recognizer, SortedSet.mem_singleton]

/-- Only a production that ends leads into the final state. -/
theorem transition_final_iff :
    ⟨left, terminal, grammar.finalState⟩ ∈
        (grammar.recognizer hlinear).transitions ↔
      ⟨terminal, none⟩ ∈ grammar.productionsOf left := by
  rw [mem_transitions_recognizer]
  constructor
  · intro h
    obtain ⟨⟨_, target⟩, hproduction, rfl, hfinal⟩ := h
    cases target with
    | none => exact hproduction
    | some target =>
        have htarget := target_mem_of_mem_productionsOf hproduction rfl
        rw [show target = grammar.finalState from hfinal] at htarget
        exact absurd htarget grammar.finalState_not_mem
  · exact fun hending => ⟨_, hending, rfl, rfl⟩

theorem transition_iff :
    ⟨left, terminal, target⟩ ∈ (grammar.recognizer hlinear).transitions ↔
      ⟨terminal, some target⟩ ∈ grammar.productionsOf left ∨
        target = grammar.finalState ∧
          ⟨terminal, none⟩ ∈ grammar.productionsOf left := by
  rw [mem_transitions_recognizer]
  constructor
  · intro h
    obtain ⟨⟨_, next⟩, hproduction, rfl, rfl⟩ := h
    cases next with
    | none => exact .inr ⟨rfl, hproduction⟩
    | some next => exact .inl hproduction
  · intro h
    rcases h with hcontinuing | ⟨rfl, hending⟩
    · exact ⟨_, hcontinuing, rfl, rfl⟩
    · exact ⟨_, hending, rfl, rfl⟩

theorem addsDeadEnd_grammar_recognizer (hlinear : grammar.IsRightLinear) :
    AddsDeadEnd grammar (grammar.recognizer hlinear).grammar
      grammar.finalState where
  final_not_mem := grammar.finalState_not_mem
  nonterminals := by
    ext symbol
    rw [Automaton.nonterminals_grammar, recognizer,
      Automaton.mem_states_ofWellFormed, SortedSet.mem_insert, or_comm]
    exact List.mem_append.trans (or_congr_right List.mem_singleton)
  terminals := by
    rw [Automaton.terminals_grammar]
    ext symbol
    exact SortedSet.mem_ofList
  start := rfl
  names := by
    rw [Automaton.names_grammar, Automaton.nonterminals_grammar]
  productionsOf_final := by
    rw [List.eq_nil_iff_forall_not_mem]
    intro production hproduction
    rw [Automaton.mem_productionsOf_grammar,
      Automaton.mem_productionsFrom] at hproduction
    obtain ⟨transition, hmem, hsource, _⟩ := hproduction
    exact source_ne_finalState hmem hsource
  ending_mem_iff := by
    intro left _ terminal
    rw [Automaton.mem_productionsOf_grammar,
      Automaton.ending_mem_productionsFrom]
    simp only [mem_accepting_recognizer, exists_eq_left, transition_final_iff]
  continuing_mem_iff := by
    intro left _ terminal target
    rw [Automaton.mem_productionsOf_grammar,
      Automaton.continuing_mem_productionsFrom, transition_iff]

end Recognizer

/-- A grammar whose left-hand sides are single non-terminals comes back from its
automaton with a dead end, and derives the words that it derived. -/
theorem toAutomaton_toGrammar_adds_deadEnd (hlinear : grammar.IsRightLinear) :
    ∃ automaton again final, grammar.toAutomaton = .ok automaton ∧
      automaton.toGrammar = .ok again ∧ AddsDeadEnd grammar again final ∧
        ∀ word, again.Derives word ↔ grammar.Derives word := by
  have hadds := addsDeadEnd_grammar_recognizer hlinear
  exact ⟨grammar.recognizer hlinear, _, _, toAutomaton_eq_ok hlinear,
    Automaton.toGrammar_eq_ok _, hadds, fun _ => hadds.derives_iff⟩

theorem crowdedGrammar_adds_deadEnd :
    crowdedGrammar.IsRightLinear ∧
      ∃ automaton again final, crowdedGrammar.toAutomaton = .ok automaton ∧
        automaton.toGrammar = .ok again ∧
          AddsDeadEnd crowdedGrammar again final ∧
            ∀ word, again.Derives word ↔ crowdedGrammar.Derives word := by
  have hlinear : crowdedGrammar.IsRightLinear := by decide +kernel
  exact ⟨hlinear, toAutomaton_toGrammar_adds_deadEnd hlinear⟩

end RightLinear.Grammar
