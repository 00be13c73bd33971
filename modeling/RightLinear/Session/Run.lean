import RightLinear.Automaton.Subset
import RightLinear.Grammar.Summary
import RightLinear.Session.Basic
import RightLinear.Session.Command
import RightLinear.Session.Report
import RightLinear.Text.Display

/-! What each command does to a session. -/

namespace RightLinear.Session

variable {φ ε σ : Type}

def load [Surroundings φ ε] (around : φ) (path : String) :
    Action ε σ Unit := do
  let loaded ← attempt .file
    (Collection.loadFile (Surroundings.files around) path)
  modify (warn (loaded.refusals.map .refusal))
  modify fun session => session.withCollection
    ⟨session.collection.automata.merge loaded.collection.automata,
      session.collection.grammars.merge loaded.collection.grammars⟩
  printLine (loadedText loaded.collection)

def list : Action ε σ Unit := do
  (listLines (← get).collection).forM printLine

def usualCount : Int := 5

def readCount : Option String → Action ε σ Int
  | some text => attempt .numeral (Text.readInteger text)
  | none => return usualCount

def generate [RandomSource σ] (grammar : Grammar) (count : Option String) :
    Action ε σ Unit := do
  let count ← readCount count
  let (batch, source) :=
    grammar.generateMany count Grammar.usualAttempts (← get).source
  modify fun session => { session with source := source }
  modify (warn (batch.shortfall.toList.map .shortfall))
  batch.sentences.forM fun sentence => printLine ("  " ++ sentence)

def graph [Surroundings φ ε] (around : φ) (name : String)
    (automaton : Automaton) : Action ε σ Unit := do
  let rendering := automaton.rendering name true
  attempt .drawing (Surroundings.draw around rendering)
  modify (draw rendering)
  printLine ("Rendered " ++ name ++ ".png")

/-- An automaton goes before a grammar of the same name. -/
def delete (name : String) : Action ε σ Unit := do
  let collection := (← get).collection
  if (collection.automata.get? name).isSome then
    modify (withCollection
      { collection with automata := collection.automata.erase name })
    printLine ("Deleted automaton: " ++ name)
  else if (collection.grammars.get? name).isSome then
    modify (withCollection
      { collection with grammars := collection.grammars.erase name })
    printLine ("Deleted grammar: " ++ name)
  else printLine ("Not found: " ++ name)

/-- Runs one command; the answer says whether the session goes on. -/
def run [RandomSource σ] [Surroundings φ ε] (around : φ) :
    Command → Action ε σ Bool
  | .nothing => return true
  | .exit => return false
  | .help => do
      printLine helpText
      return true
  | .load path => do
      load around path
      return true
  | .list => do
      list
      return true
  | .showAutomaton name => do
      withAutomaton name fun automaton =>
        printLine ("\n" ++ name ++ ":\n" ++ automaton.summary)
      return true
  | .graph name => do
      withAutomaton name (graph around name)
      return true
  | .test name word => do
      withAutomaton name fun automaton =>
        let verdict :=
          if automaton.accepts (Automaton.symbolsOf word) then "ACCEPTED"
          else "REJECTED"
        printLine ("'" ++ word ++ "' is " ++ verdict)
      return true
  | .isDeterministic name => do
      withAutomaton name fun automaton =>
        printLine ("Is deterministic: " ++ Text.truth automaton.isDeterministic)
      return true
  | .determinize name result => do
      withAutomaton name fun automaton => do
        storeAutomaton result (← attempt .automaton automaton.determinize)
      return true
  | .toGrammar name result => do
      withAutomaton name fun automaton => do
        storeGrammar result (← attempt .grammar automaton.toGrammar)
      return true
  | .showGrammar name => do
      withGrammar name fun grammar =>
        printLine ("\n" ++ name ++ ":\n" ++ grammar.summary)
      return true
  | .classify name => do
      withGrammar name fun grammar =>
        printLine (name ++ " is: " ++ grammar.kind.label)
      return true
  | .generate name count => do
      withGrammar name fun grammar => generate grammar count
      return true
  | .toAutomaton name result => do
      withGrammar name fun grammar => do
        storeAutomaton result (← attempt .conversion grammar.toAutomaton)
      return true
  | .delete name => do
      delete name
      return true
  | .clear => do
      modify (withCollection ∅)
      printLine "Cleared all items"
      return true
  | .incomplete usage => do
      printLine ("Usage: " ++ usage)
      return true
  | .unknown word => do
      printLine ("Unknown command: " ++ word ++ ". Type 'help' for commands")
      return true

def execute [RandomSource σ] [Surroundings φ ε] (around : φ)
    (line : String) : Session σ → Except (Failure ε) Bool × Session σ :=
  fun session => (run around (Command.read line)).run.run session

end RightLinear.Session
