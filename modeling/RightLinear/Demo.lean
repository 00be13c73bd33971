import RightLinear.Automaton.Subset
import RightLinear.Automaton.Summary
import RightLinear.Conversion
import RightLinear.Grammar.Sentence
import RightLinear.Grammar.Summary
import RightLinear.Session.Transcript
import RightLinear.Text.Display

/-! A demonstration: one grammar and one automaton are shown, classified,
converted and tested. -/

namespace RightLinear.Demo

open Text

def grammarDescription : Grammar.Description where
  nonterminals := ["S", "A", "B"]
  terminals := ["a", "b", "c", "d"]
  rules := Registry.ofList
    [("S", [⟨"b", some "S"⟩, ⟨"d", some "A"⟩]),
      ("A", [⟨"a", some "A"⟩, ⟨"d", some "B"⟩, ⟨"a", none⟩]),
      ("B", [⟨"c", some "B"⟩, ⟨"a", none⟩])]
  start := "S"

def automatonDescription : Automaton.Description where
  states := ["q0", "q1", "q2", "q3"]
  alphabet := ["a", "b"]
  transitions :=
    [["q0", "a", "q0"], ["q0", "a", "q1"], ["q1", "a", "q2"],
      ["q1", "b", "q1"], ["q2", "a", "q3"], ["q3", "a", "q1"]]
  start := some "q0"
  accepting := ["q2"]

def grammar : Grammar :=
  Grammar.ofWellFormed grammarDescription
    (Grammar.Description.fault?_eq_none_iff.mp (by decide +kernel))

def automaton : Automaton :=
  Automaton.ofWellFormed automatonDescription
    (Automaton.Description.fault?_eq_none_iff.mp (by decide +kernel))

def grammarWords : List String :=
  ["db", "bdaab", "ddca", "ca", "da", "b", "bddca", "bdca"]

def equivalenceWords : List String :=
  ["aa", "aaa", "aba", "abaa", "a", "b", "bb", "aab", "aaba", "aaaa"]

def banner (title : String) : List String :=
  ["", "========================================", " " ++ title,
    "========================================"]

private def padded (width : Nat) (text : String) : String :=
  text ++ String.ofList (List.replicate (width - text.length) ' ')

private def tableRow (word first second : String) : String :=
  "  " ++ padded 10 word ++ " " ++ padded 8 first ++ " " ++ padded 8 second

private def grammarLines (grammar : Grammar) : List String :=
  ["Start symbol: " ++ grammar.start, "Productions:"] ++
    grammar.productionLines ++
    ["Classification: " ++ grammar.kind.label]

private def acceptsWord (automaton : Automaton) (word : String) : Bool :=
  automaton.accepts (Automaton.symbolsOf word)

def comparison (first second : Automaton) (word : String) : String :=
  let left := acceptsWord first word
  let right := acceptsWord second word
  tableRow word (truth left) (truth right) ++ " " ++
    if left = right then "OK" else "MISMATCH"

def report {σ : Type} [RandomSource σ] (source : σ) :
    Except Failure (List String) := do
  let (batch, _) := grammar.generateMany 5 Grammar.usualAttempts source
  let fromGrammar ← grammar.toAutomaton.mapError .conversion
  let regular ← automaton.toGrammar.mapError .grammar
  let deterministic ← automaton.determinize.mapError .automaton
  return banner "GRAMMAR" ++
    grammarLines grammar ++
    ["", "5 generated strings:"] ++
    batch.sentences.map ("  " ++ ·) ++
    banner "FINITE AUTOMATON (from grammar)" ++
    ["Transitions:"] ++
    fromGrammar.transitionLines ++
    ["", "Membership tests:"] ++
    grammarWords.map (fun word =>
      "  " ++ word ++ " -> " ++ truth (acceptsWord fromGrammar word)) ++
    banner "NEA" ++
    ["Transitions:"] ++
    automaton.transitionLines ++
    banner "DETERMINISM CHECK" ++
    ["Is deterministic: " ++ truth automaton.isDeterministic] ++
    banner "NEA -> REGULAR GRAMMAR" ++
    grammarLines regular ++
    banner "NEA -> DEA (subset construction)" ++
    ["Transitions:"] ++
    deterministic.transitionLines ++
    ["Is deterministic: " ++ truth deterministic.isDeterministic] ++
    ["", "Equivalence check (NEA vs DEA):", tableRow "String" "NEA" "DEA"] ++
    equivalenceWords.map (comparison automaton deterministic)

end RightLinear.Demo
