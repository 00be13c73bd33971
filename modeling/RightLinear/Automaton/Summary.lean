import RightLinear.Automaton.Run
import RightLinear.Text.Display

/-! Automata as text for people. -/

namespace RightLinear.Automaton

open Text

def kindName (automaton : Automaton) : String :=
  if automaton.isDeterministic then "DEA" else "NEA"

def transitionLines (automaton : Automaton) : List String :=
  automaton.transitions.toList.map fun transition => "  " ++ transition.arrow

def summary (automaton : Automaton) : String :=
  "Automaton (" ++ automaton.kindName ++ ")\n" ++
    "  States: " ++ listing automaton.states.toList ++ "\n" ++
    "  Alphabet: " ++ listing automaton.alphabet.toList ++ "\n" ++
    "  Start state: " ++ automaton.start ++ "\n" ++
    "  Accepting states: " ++ listing automaton.accepting.toList ++ "\n" ++
    "  Transitions:\n" ++
    String.join (automaton.transitionLines.map fun line => "  " ++ line ++ "\n")

end RightLinear.Automaton
