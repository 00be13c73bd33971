import RightLinear.Session.Surroundings

/-! A session of the terminal: what is loaded, the source of random choices, and
the transcript.  A command that fails keeps whatever it has done so far, so that
it has done nothing is a property of the commands and not of the way they are
run. -/

namespace RightLinear

structure Session (σ : Type) where
  collection : Collection := ∅
  source : σ
  transcript : Transcript := {}

namespace Session

abbrev Action (ε σ : Type) := ExceptT (Failure ε) (StateM (Session σ))

variable {ε σ : Type}

def print (text : String) (session : Session σ) : Session σ :=
  { session with transcript :=
      { session.transcript with printed := session.transcript.printed ++ text } }

def warn (warnings : List Warning) (session : Session σ) : Session σ :=
  { session with transcript :=
      { session.transcript with
        warnings := session.transcript.warnings ++ warnings } }

def draw (rendering : Rendering) (session : Session σ) : Session σ :=
  { session with transcript :=
      { session.transcript with
        renderings := session.transcript.renderings ++ [rendering] } }

def withCollection (collection : Collection) (session : Session σ) :
    Session σ :=
  { session with collection := collection }

def printLine (text : String) : Action ε σ Unit :=
  modify (print (text ++ "\n"))

def attempt {δ α : Type} (failure : δ → Failure ε) :
    Except δ α → Action ε σ α
  | .ok value => return value
  | .error error => throw (failure error)

def fetchAutomaton (name : String) : Action ε σ (Option Automaton) := do
  let found := (← get).collection.automata.get? name
  if found.isNone then printLine ("Automaton not found: " ++ name)
  return found

def fetchGrammar (name : String) : Action ε σ (Option Grammar) := do
  let found := (← get).collection.grammars.get? name
  if found.isNone then printLine ("Grammar not found: " ++ name)
  return found

/-- Runs an action on the automaton of that name, if there is one. -/
def withAutomaton (name : String) (act : Automaton → Action ε σ Unit) :
    Action ε σ Unit := do
  if let some automaton ← fetchAutomaton name then act automaton

def withGrammar (name : String) (act : Grammar → Action ε σ Unit) :
    Action ε σ Unit := do
  if let some grammar ← fetchGrammar name then act grammar

def storeAutomaton (name : String) (automaton : Automaton) :
    Action ε σ Unit := do
  modify fun session => session.withCollection
    { session.collection with
      automata := session.collection.automata.insert name automaton }
  printLine ("Created automaton: " ++ name)

def storeGrammar (name : String) (grammar : Grammar) : Action ε σ Unit := do
  modify fun session => session.withCollection
    { session.collection with
      grammars := session.collection.grammars.insert name grammar }
  printLine ("Created grammar: " ++ name)

end Session

end RightLinear
