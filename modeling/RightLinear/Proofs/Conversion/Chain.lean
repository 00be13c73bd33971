import RightLinear.Proofs.Conversion.ToGrammar
import RightLinear.Proofs.Grammar.Kind
import RightLinear.Proofs.Subset.Language

/-! Chains of conversions.  Whatever a conversion ends with can be converted
again, and only the step from an automaton to a grammar changes the language: it
loses the empty word, which a grammar never has. -/

namespace RightLinear.Conversion

inductive Form where
  | automaton
  | grammar

inductive Value : Form → Type
  | automaton (automaton : Automaton) : Value .automaton
  | grammar (grammar : Grammar) : Value .grammar

inductive Step : Form → Form → Type
  | determinize : Step .automaton .automaton
  | toGrammar : Step .automaton .grammar
  | toAutomaton : Step .grammar .automaton

/-- Steps of which each goes on from the form that the one before ends with. -/
inductive Chain : Form → Form → Type
  | done (form : Form) : Chain form form
  | step {source middle target : Form} (first : Step source middle)
      (later : Chain middle target) : Chain source target

inductive Error where
  | automaton (fault : Automaton.Fault)
  | grammar (fault : Grammar.Fault)
  | conversion (error : Grammar.ConversionError)

/-- The last value of a chain, and the grammars that its steps have built. -/
structure Outcome (form : Form) where
  value : Value form
  built : List Grammar

variable {source middle target form : Form}

namespace Value

/-- Every automaton can be converted, and a grammar whose left-hand sides are
single non-terminals. -/
def IsConvertible : Value form → Prop
  | automaton _ => True
  | grammar value => value.IsRightLinear

/-- An automaton accepts its words and a grammar derives them. -/
def Generates : Value form → List String → Prop
  | automaton value, word => value.accepts word = true
  | grammar value, word => value.Derives word

def grammars : Value form → List Grammar
  | automaton _ => []
  | grammar value => [value]

end Value

namespace Step

def apply : Step source target → Value source → Except Error (Value target)
  | determinize, .automaton value =>
      match value.determinize with
      | .ok next => .ok (.automaton next)
      | .error fault => .error (.automaton fault)
  | toGrammar, .automaton value =>
      match value.toGrammar with
      | .ok next => .ok (.grammar next)
      | .error fault => .error (.grammar fault)
  | toAutomaton, .grammar value =>
      match value.toAutomaton with
      | .ok next => .ok (.automaton next)
      | .error error => .error (.conversion error)

def buildsGrammar : Step source target → Bool
  | toGrammar => true
  | determinize => false
  | toAutomaton => false

end Step

namespace Chain

def run : {source target : Form} → Chain source target → Value source →
    Except Error (Outcome target)
  | _, _, done _, value => .ok ⟨value, []⟩
  | _, _, step first later, value => do
      let next ← first.apply value
      let outcome ← later.run next
      return { outcome with built := next.grammars ++ outcome.built }

def buildsGrammar : {source target : Form} → Chain source target → Bool
  | _, _, done _ => false
  | _, _, step first later => first.buildsGrammar || later.buildsGrammar

end Chain

theorem isRightLinear_grammar (automaton : Automaton) :
    automaton.grammar.IsRightLinear := by
  intro left hleft
  obtain ⟨⟨_, productions⟩, hentry, rfl⟩ := List.mem_map.mp hleft
  exact SortedSet.mem_ofList.mpr
    (Automaton.mem_entries_grammarRules.mp hentry).1

theorem Value.IsConvertible.kind_eq {value : Value form}
    (hconvertible : value.IsConvertible) :
    ∀ grammar ∈ value.grammars, grammar.kind = .regular := by
  intro grammar hgrammar
  cases value with
  | automaton _ => exact absurd hgrammar List.not_mem_nil
  | grammar value =>
      rw [List.mem_singleton.mp hgrammar]
      exact Grammar.IsRightLinear.kind_eq hconvertible

theorem Value.ne_nil_of_generates {value : Value .grammar}
    {word : List String} (h : value.Generates word) : word ≠ [] := by
  cases value with
  | grammar value => exact Grammar.DerivesFrom.ne_nil h

/-- A step goes through, its result can be converted again, and of the words at
most the empty one is lost. -/
theorem Step.exists_apply_eq_ok (step : Step source target)
    {value : Value source} (hconvertible : value.IsConvertible) :
    ∃ next, step.apply value = .ok next ∧ next.IsConvertible ∧
      ∀ word, next.Generates word ↔
        value.Generates word ∧ (step.buildsGrammar = true → word ≠ []) := by
  cases step with
  | determinize =>
      cases value with
      | automaton value =>
          refine ⟨.automaton value.determinized, ?_, trivial, ?_⟩
          · simp only [apply, value.determinize_eq_ok]
          · intro word
            simp [Value.Generates, buildsGrammar,
              Automaton.accepts_determinized]
  | toGrammar =>
      cases value with
      | automaton value =>
          refine ⟨.grammar value.grammar, ?_, isRightLinear_grammar value, ?_⟩
          · simp only [apply, value.toGrammar_eq_ok]
          · intro word
            simp only [Value.Generates, buildsGrammar, forall_true_left]
            exact Automaton.derives_grammar_iff.trans and_comm
  | toAutomaton =>
      cases value with
      | grammar value =>
          refine ⟨.automaton (value.recognizer hconvertible), ?_, trivial, ?_⟩
          · simp only [apply, Grammar.toAutomaton_eq_ok hconvertible]
          · intro word
            simp only [Value.Generates, buildsGrammar, Bool.false_eq_true,
              false_implies, and_true]
            exact Grammar.accepts_recognizer_iff

/-- By induction on the chain: each step gives the next one a value that it can
convert. -/
theorem Chain.exists_run_eq_ok (chain : Chain source target)
    {value : Value source} (hconvertible : value.IsConvertible) :
    ∃ outcome, chain.run value = .ok outcome ∧
      (∀ grammar ∈ outcome.built, grammar.kind = .regular) ∧
        ∀ word, outcome.value.Generates word ↔
          value.Generates word ∧ (chain.buildsGrammar = true → word ≠ []) := by
  induction chain with
  | done form => exact ⟨⟨value, []⟩, rfl, by simp, by simp [buildsGrammar]⟩
  | step first later ih =>
      obtain ⟨next, happly, hnext, hwords⟩ :=
        first.exists_apply_eq_ok hconvertible
      obtain ⟨outcome, hrun, hbuilt, hlater⟩ := ih hnext
      refine ⟨{ outcome with built := next.grammars ++ outcome.built },
        ?_, ?_, ?_⟩
      · simp only [run, happly, hrun, bind, Except.bind]
        rfl
      · intro grammar hgrammar
        rcases List.mem_append.mp hgrammar with hfirst | hrest
        · exact hnext.kind_eq grammar hfirst
        · exact hbuilt grammar hrest
      · intro word
        simp only [hlater, hwords, buildsGrammar, Bool.or_eq_true, or_imp,
          and_assoc]

/-- Every chain of conversions goes through, the grammars on the way are
regular, and the language stays, but for the empty word of an automaton once a
grammar has been built from it. -/
theorem chain_keeps_language (chain : Chain source target)
    (value : Value source) (hconvertible : value.IsConvertible) :
    ∃ outcome, chain.run value = .ok outcome ∧
      (∀ grammar ∈ outcome.built, grammar.kind = .regular) ∧
        ∀ word, outcome.value.Generates word ↔
          value.Generates word ∧
            (source = .automaton → chain.buildsGrammar = true → word ≠ []) := by
  obtain ⟨outcome, hrun, hbuilt, hwords⟩ := chain.exists_run_eq_ok hconvertible
  refine ⟨outcome, hrun, hbuilt, ?_⟩
  intro word
  rw [hwords]
  cases source with
  | automaton => simp
  | grammar =>
      simp only [reduceCtorEq, false_implies, and_true, and_iff_left_iff_imp]
      exact fun hgenerates _ => Value.ne_nil_of_generates hgenerates

/-- To an automaton, to the deterministic one, and back to a grammar. -/
def roundTrip : Chain .grammar .grammar :=
  .step .toAutomaton (.step .determinize (.step .toGrammar (.done .grammar)))

theorem roundTrip_keeps_language :
    (Value.grammar Grammar.crowdedGrammar).IsConvertible ∧
      ∃ outcome,
        roundTrip.run (.grammar Grammar.crowdedGrammar) = .ok outcome ∧
          (∀ grammar ∈ outcome.built, grammar.kind = .regular) ∧
            ∀ word, outcome.value.Generates word ↔
              (Value.grammar Grammar.crowdedGrammar).Generates word ∧
                (Form.grammar = .automaton →
                  roundTrip.buildsGrammar = true → word ≠ []) := by
  have hconvertible :
      (Value.grammar Grammar.crowdedGrammar).IsConvertible := by
    change Grammar.crowdedGrammar.IsRightLinear
    decide +kernel
  exact ⟨hconvertible, chain_keeps_language roundTrip _ hconvertible⟩

end RightLinear.Conversion
