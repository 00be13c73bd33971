import RightLinear.Grammar.Kind
import RightLinear.Text.Display

/-! Grammars as text for people. -/

namespace RightLinear.Grammar

open Text

/-- One line for each production, in the order of the lines. -/
def productionLines (grammar : Grammar) : List String :=
  (grammar.ruleList.map fun (left, production) =>
    "  " ++ shownRule left production).mergeSort

/-- One line for each left-hand side that has productions. -/
def ruleLines (grammar : Grammar) : List String :=
  (grammar.rules.names.mergeSort.filter fun left =>
    !(grammar.productionsOf left).isEmpty).map fun left =>
      left ++ " -> " ++
        " | ".intercalate ((grammar.productionsOf left).map Production.text)

def summary (grammar : Grammar) : String :=
  "Grammar Type: " ++ grammar.kind.name ++ "\n" ++
    "  Non-terminals: " ++ listing grammar.nonterminals.toList ++ "\n" ++
    "  Terminals: " ++ listing grammar.terminals.toList ++ "\n" ++
    "  Start symbol: " ++ grammar.start ++ "\n" ++
    "  Productions:\n" ++
    String.join (grammar.ruleLines.map fun line => "    " ++ line ++ "\n")

end RightLinear.Grammar
