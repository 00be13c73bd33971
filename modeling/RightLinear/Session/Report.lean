import RightLinear.Automaton.Summary
import RightLinear.Collection.Load
import RightLinear.Grammar.Summary

/-! Texts of the terminal that are more than one line of a command. -/

namespace RightLinear.Session

def helpText : String :=
"
Commands:
  LOADING:
    load <file>                  - Load automata/grammars from file
    list                         - List all loaded items

  AUTOMATA OPERATIONS:
    show <name>                  - Show automaton info
    graph <name>                 - Visualize automaton
    test <name> <word>           - Test if word is accepted
    is_dea <name>                - Check whether automaton is deterministic

    CONVERSIONS:
      to_dea <name> [result]     - Convert NEA to DEA (subset construction)
      to_grammar <name> [result] - Convert automaton to right-linear grammar

  GRAMMAR OPERATIONS:
    show_grammar <name>          - Show grammar info
    classify <name>              - Chomsky hierarchy classification
    generate <name> [count]      - Generate random sentences
    to_nea <name> [result]       - Convert right-linear grammar to NEA

  GENERAL:
    delete <name>                - Delete item
    clear                        - Clear all
    exit                         - Exit
"

private def counted (items : String) (names : List String) : List String :=
  if names.isEmpty then []
  else [toString names.length ++ " " ++ items ++ ": " ++
    ", ".intercalate names]

def loadedText (collection : Collection) : String :=
  if collection.isEmpty then "No items loaded"
  else
    "Loaded " ++ " and ".intercalate
      (counted "automata" collection.automata.names ++
        counted "grammars" collection.grammars.names)

private def sortedEntries {α : Type} (registry : Registry α) :
    List (String × α) :=
  registry.entries.mergeSort fun first second => first.1 ≤ second.1

def automatonLine (name : String) (automaton : Automaton) : String :=
  "  " ++ name ++ ": " ++ automaton.kindName ++ ", " ++
    toString automaton.states.size ++ " states"

def grammarLine (name : String) (grammar : Grammar) : String :=
  "  " ++ name ++ ": " ++ grammar.kind.name ++ ", " ++
    toString grammar.nonterminals.size ++ " non-terminals, " ++
    toString grammar.ruleList.length ++ " productions"

def listLines (collection : Collection) : List String :=
  (if collection.isEmpty then ["Nothing loaded"] else []) ++
    (if collection.automata.isEmpty then []
      else "Automata:" :: (sortedEntries collection.automata).map
        fun (name, automaton) => automatonLine name automaton) ++
    if collection.grammars.isEmpty then []
      else "Grammars:" :: (sortedEntries collection.grammars).map
        fun (name, grammar) => grammarLine name grammar

end RightLinear.Session
