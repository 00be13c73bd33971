import RightLinear.Automaton.Document
import RightLinear.Collection.Detect
import RightLinear.Collection.Section
import RightLinear.File.Basic
import RightLinear.Grammar.Document

/-! Named automata and grammars from one text.  A definition that cannot be read
is left out and reported; it does not disturb the others. -/

namespace RightLinear

structure Collection where
  automata : Registry Automaton
  grammars : Registry Grammar
  deriving DecidableEq

namespace Collection

open Text

/-- Why a definition was left out. -/
inductive Refusal where
  | automaton (name : String) (error : Automaton.DocumentError)
  | grammar (name : String) (error : Grammar.DocumentError)
  deriving DecidableEq

def Refusal.message : Refusal → String
  | automaton name error =>
      "Failed to load automaton '" ++ name ++ "': " ++ error.message
  | grammar name error =>
      "Failed to load grammar '" ++ name ++ "': " ++ error.message

def empty : Collection := ⟨∅, ∅⟩

instance : EmptyCollection Collection := ⟨empty⟩

def isEmpty (collection : Collection) : Bool :=
  collection.automata.isEmpty && collection.grammars.isEmpty

/-- The names of the automata of one definition: the name itself, then the
name with a number. -/
def numberedName (name : String) (index : Nat) : String :=
  if index = 0 then name else name ++ toString index

def addAutomata (collection : Collection) (name : String)
    (automata : List Automaton) : Collection :=
  { collection with
    automata := automata.zipIdx.foldl
      (fun registry (automaton, index) =>
        registry.insert (numberedName name index) automaton)
      collection.automata }

def addGrammar (collection : Collection) (name : String) (grammar : Grammar) :
    Collection :=
  { collection with grammars := collection.grammars.insert name grammar }

structure Loaded where
  collection : Collection
  refusals : List Refusal
  deriving DecidableEq

def addDefinition (loaded : Loaded) (definition : Section) : Loaded :=
  let text := String.ofList definition.body
  if looksLikeAutomaton definition.body then
    match Automaton.readAll text with
    | .ok automata =>
        { loaded with collection :=
            loaded.collection.addAutomata definition.name automata }
    | .error error =>
        { loaded with refusals :=
            loaded.refusals ++ [.automaton definition.name error] }
  else
    match Grammar.read text with
    | .ok grammar =>
        { loaded with collection :=
            loaded.collection.addGrammar definition.name grammar }
    | .error error =>
        { loaded with refusals :=
            loaded.refusals ++ [.grammar definition.name error] }

/-- A text without sections is one definition under the given name.  Empty
definitions are passed over. -/
def definitions (text : List Char) (name : String) : List Section :=
  let found := sections text
  let all := if found.isEmpty then [⟨name, trim text⟩] else found
  all.filter (!·.body.isEmpty)

def load (text name : String) : Loaded :=
  (definitions text.toList name).foldl addDefinition ⟨∅, []⟩

def usualName : String := "main"

def loadFile (files : FileSystem) (path : String) : Except FileError Loaded :=
  do
    let text ← files.text path
    return load text (fileStem path)

end Collection

end RightLinear
