import RightLinear.Automaton.Basic
import RightLinear.Text.Split

/-! The text form of automata.  A text holds blocks separated by `---`.  A line
of a block declares symbols, states, the start or accepting states after a
keyword, or gives a transition, either as `p -> a -> q` or as `p a q`.  Labels
that occur in any of these places are declared by occurring. -/

namespace RightLinear.Automaton

open Text

inductive DocumentError where
  | malformedTransition (line : String)
  | missingStart
  | fault (fault : Fault)
  deriving DecidableEq

def DocumentError.message : DocumentError → String
  | malformedTransition line => "Malformed transition line: " ++ quoted line
  | missingStart => "Automaton definition has no 'start:' line"
  | fault found => found.message

namespace Document

inductive Line where
  | blank
  | alphabet (symbols : List String)
  | states (labels : List String)
  | start (label : String)
  | accept (labels : List String)
  | transition (transition : Transition)
  deriving DecidableEq

def labels (text : List Char) : List String :=
  (words text).map String.ofList

def readTransition (line : List Char) : Except DocumentError Line :=
  let parts :=
    if contains "->".toList line then (splitOn "->".toList line).map trim
    else words line
  match parts with
  | [source, symbol, target] =>
      if source.isEmpty || symbol.isEmpty || target.isEmpty then
        .error (.malformedTransition (String.ofList line))
      else
        .ok (.transition ⟨String.ofList source, String.ofList symbol,
          String.ofList target⟩)
  | _ => .error (.malformedTransition (String.ofList line))

/-- Keywords come before transitions, so no label may begin with one. -/
def readLine (text : List Char) : Except DocumentError Line :=
  let line := trim text
  if line.isEmpty || line.head? == some '#' then .ok .blank
  else if let some rest := after? "alphabet:".toList line then
    .ok (.alphabet (labels rest))
  else if let some rest := after? "states:".toList line then
    .ok (.states (labels rest))
  else if let some rest := after? "start:".toList line then
    .ok (.start (String.ofList (trim rest)))
  else if let some rest := after? "accept:".toList line then
    .ok (.accept (labels rest))
  else readTransition line

namespace Line

def declaredStates : Line → List String
  | states labels => labels
  | accept labels => labels
  | transition edge => [edge.source, edge.target]
  | _ => []

def declaredSymbols : Line → List String
  | alphabet symbols => symbols
  | transition edge => [edge.symbol]
  | _ => []

def transition? : Line → Option Transition
  | transition edge => some edge
  | _ => none

def start? : Line → Option String
  | start label => some label
  | _ => none

def accepting : Line → List String
  | accept labels => labels
  | _ => []

end Line

/-- Of several start lines the last one counts. -/
def description (lines : List Line) : Description :=
  let start := (lines.filterMap Line.start?).getLast?
  { states := start.toList ++ lines.flatMap Line.declaredStates
    alphabet := lines.flatMap Line.declaredSymbols
    transitions := (lines.filterMap Line.transition?).map Transition.row
    start := start
    accepting := lines.flatMap Line.accepting }

def readBlock (block : List Char) : Except DocumentError Automaton := do
  let lines ← (lines block).mapM readLine
  if (description lines).start.isNone then throw .missingStart
  (ofDescription (description lines)).mapError .fault

def blocks (text : List Char) : List (List Char) :=
  ((splitOn "---".toList text).map trim).filter (!·.isEmpty)

end Document

def readAll (text : String) : Except DocumentError (List Automaton) :=
  (Document.blocks text.toList).mapM Document.readBlock

end RightLinear.Automaton
