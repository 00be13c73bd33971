import RightLinear.Session.Run

/-! A conversation over lines of input: a greeting, a prompt before each line,
and a message for each command that fails. -/

namespace RightLinear.Session

open Text

variable {φ ε σ : Type} [ToString ε] [Surroundings φ ε] [RandomSource σ]

def greeting : String :=
  "Automaton & Grammar Terminal - Type 'help' for commands\n\n"

def prompt : String := "> "

/-- Answers one line; the answer says whether the conversation goes on. -/
def answer (around : φ) (line : String) (session : Session σ) :
    Bool × Session σ :=
  match session.execute around (String.ofList (trim line.toList)) with
  | (.ok goesOn, session) => (goesOn, session)
  | (.error failure, session) =>
      (true, session.print ("Error: " ++ failure.message ++ "\n"))

def converse (around : φ) : List String → Session σ → Session σ
  | [], session => session.print (prompt ++ "\n")
  | line :: later, session =>
      match answer around line (session.print prompt) with
      | (true, session) => converse around later session
      | (false, session) => session

/-- The lines of an input; after its last line end there is no further line. -/
def inputLines (input : String) : List String :=
  let pieces := lines input.toList
  let found := if pieces.getLast? = some [] then pieces.dropLast else pieces
  found.map String.ofList

def transcriptOf (around : φ) (input : String) (source : σ) :
    Transcript :=
  (converse around (inputLines input)
    (Session.print greeting { source := source })).transcript

end RightLinear.Session
