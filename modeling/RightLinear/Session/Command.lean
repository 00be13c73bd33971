import RightLinear.Text.Lowercase
import RightLinear.Text.Split

/-! Commands of the terminal, as a line of words gives them. -/

namespace RightLinear

inductive Command where
  | nothing
  | exit
  | help
  | load (path : String)
  | list
  | showAutomaton (name : String)
  | graph (name : String)
  | test (name word : String)
  | isDeterministic (name : String)
  | determinize (name result : String)
  | toGrammar (name result : String)
  | showGrammar (name : String)
  | classify (name : String)
  | generate (name : String) (count : Option String)
  | toAutomaton (name result : String)
  | delete (name : String)
  | clear
  | incomplete (usage : String)
  | unknown (word : String)
  deriving DecidableEq

namespace Command

open Text

/-- A command about one item, of which the words after its name are
`rest`. -/
private def about (usage : String) (arguments : List String)
    (command : String → List String → Command) : Command :=
  match arguments with
  | [] => incomplete usage
  | name :: rest => command name rest

private def named (usage : String) (arguments : List String)
    (command : String → Command) : Command :=
  about usage arguments fun name _ => command name

/-- A conversion, whose result has a name of its own or that of its source
with an ending. -/
private def conversion (usage suffix : String) (arguments : List String)
    (command : String → String → Command) : Command :=
  about usage arguments fun name rest =>
    command name (rest.head?.getD (name ++ suffix))

def ofWords (word : String) (arguments : List String) : Command :=
  match word with
  | "exit" => exit
  | "quit" => exit
  | "help" => help
  | "load" => named "load <filename>" arguments load
  | "list" => list
  | "show" => named "show <name>" arguments showAutomaton
  | "graph" => named "graph <name>" arguments graph
  | "test" =>
      about "test <name> <word>" arguments fun name rest =>
        test name (rest.head?.getD "")
  | "is_dea" => named "is_dea <name>" arguments isDeterministic
  | "to_dea" =>
      conversion "to_dea <name> [result]" "_dea" arguments determinize
  | "to_grammar" =>
      conversion "to_grammar <name> [result]" "_grammar" arguments toGrammar
  | "show_grammar" => named "show_grammar <name>" arguments showGrammar
  | "classify" => named "classify <name>" arguments classify
  | "generate" =>
      about "generate <name> [count]" arguments fun name rest =>
        generate name rest.head?
  | "to_nea" =>
      conversion "to_nea <name> [result]" "_nea" arguments toAutomaton
  | "delete" => named "delete <name>" arguments delete
  | "clear" => clear
  | _ => unknown word

/-- The first word may be in capitals; words after the last argument are
passed over. -/
def read (line : String) : Command :=
  match (words line.toList).map String.ofList with
  | [] => nothing
  | word :: arguments => ofWords (lowercase word) arguments

end Command

end RightLinear
