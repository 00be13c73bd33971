import RightLinear.Automaton.Name
import RightLinear.Automaton.Run
import RightLinear.Grammar.Basic

/-! Automata as grammars and grammars as automata.  States are non-terminals and
transitions are productions; a derivation may end wherever a transition enters
an accepting state, so only the empty word has no derivation. -/

namespace RightLinear

namespace Automaton

def continuing (transition : Transition) : Production :=
  ⟨transition.symbol, some transition.target⟩

def ending (transition : Transition) : Production :=
  ⟨transition.symbol, none⟩

/-- Adds what one transition allows.  Transitions with one symbol into several
accepting states share one ending production. -/
def addProductions (automaton : Automaton) (productions : List Production)
    (transition : Transition) : List Production :=
  if transition.target ∈ automaton.accepting ∧
      ending transition ∉ productions then
    productions ++ [continuing transition, ending transition]
  else productions ++ [continuing transition]

def productionsFrom (automaton : Automaton) (source : String) :
    List Production :=
  (automaton.transitions.toList.filter (·.source == source)).foldl
    automaton.addProductions []

/-- One rule for each state, in order, also where no transition leaves it. -/
def grammarRules (automaton : Automaton) : Registry (List Production) where
  entries := automaton.states.toList.map fun state =>
    (state, automaton.productionsFrom state)
  nodup := by
    simpa [Function.comp_def] using automaton.states.nodup

def grammarDescription (automaton : Automaton) : Grammar.Description where
  nonterminals := automaton.states.toList
  terminals := automaton.alphabet.toList
  rules := automaton.grammarRules
  start := automaton.start

def toGrammar (automaton : Automaton) : Except Grammar.Fault Grammar :=
  Grammar.ofDescription automaton.grammarDescription

end Automaton

namespace Grammar

inductive ConversionError where
  | leftSide (left : String)
  | fault (fault : Automaton.Fault)
  deriving DecidableEq

def ConversionError.message : ConversionError → String
  | leftSide left =>
      "Cannot build an automaton from production with left-hand side " ++
        Text.quoted left ++ ": left-hand sides must be single non-terminals"
  | fault found => found.message

/-- The one accepting state, which is no non-terminal of the grammar. -/
def finalState (grammar : Grammar) : String :=
  freshName "X" grammar.nonterminals.toList

def transitionOf (grammar : Grammar) (rule : String × Production) :
    Transition :=
  ⟨rule.1, rule.2.terminal, rule.2.target.getD grammar.finalState⟩

def automatonDescription (grammar : Grammar) : Automaton.Description where
  states := grammar.nonterminals.toList ++ [grammar.finalState]
  alphabet := grammar.terminals.toList
  transitions :=
    (grammar.ruleList.map grammar.transitionOf).map Transition.row
  start := some grammar.start
  accepting := [grammar.finalState]

def toAutomaton (grammar : Grammar) : Except ConversionError Automaton :=
  match grammar.rules.names.find? fun left =>
      decide (left ∉ grammar.nonterminals) with
  | some left => .error (.leftSide left)
  | none =>
      (Automaton.ofDescription grammar.automatonDescription).mapError .fault

end Grammar

end RightLinear
