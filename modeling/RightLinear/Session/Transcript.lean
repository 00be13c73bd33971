import RightLinear.Automaton.Diagram
import RightLinear.Collection.Load
import RightLinear.Conversion
import RightLinear.Grammar.Sentence
import RightLinear.Text.Numeral

/-! What a session shows: printed text, warnings and diagrams, and the ways in
which a command can fail. -/

namespace RightLinear

inductive Warning where
  | shortfall (shortfall : Grammar.Shortfall)
  | refusal (refusal : Collection.Refusal)
  deriving DecidableEq

def Warning.message : Warning → String
  | shortfall found => found.message
  | refusal found => found.message

/-- The errors of drawing are those of whatever draws. -/
inductive Session.Failure (ε : Type) where
  | file (error : FileError)
  | numeral (error : Text.NumeralError)
  | automaton (fault : Automaton.Fault)
  | grammar (fault : Grammar.Fault)
  | conversion (error : Grammar.ConversionError)
  | drawing (error : ε)
  deriving DecidableEq

def Session.Failure.message {ε : Type} [ToString ε] :
    Session.Failure ε → String
  | file error => error.message
  | numeral error => error.message
  | automaton fault => fault.message
  | grammar fault => fault.message
  | conversion error => error.message
  | drawing error => toString error

/-- A failure where drawing does not fail. -/
abbrev Failure := Session.Failure Empty

instance toStringEmpty : ToString Empty := ⟨nofun⟩

/-- A diagram as it is handed over for drawing. -/
structure Rendering where
  name : String
  view : Bool
  cleanup : Bool
  source : String
  deriving DecidableEq

def Automaton.rendering (automaton : Automaton) (name : String)
    (view : Bool) : Rendering :=
  ⟨name, view, true, automaton.diagram.source⟩

structure Transcript where
  printed : String := ""
  warnings : List Warning := []
  renderings : List Rendering := []
  deriving DecidableEq

end RightLinear
