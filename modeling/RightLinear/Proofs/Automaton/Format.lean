import Mathlib.Data.List.Forall2
import RightLinear.Automaton.Document
import RightLinear.Proofs.Grammar.Format

/-! What the text form of automata allows: the automata that can be written,
every way to write their lines, and how many automata stand in one text.
Nothing here refers to how a text is read. -/

namespace RightLinear.Automaton.Format

open Text Document
open Grammar.Format (IsGap)

/-- The words that give a line its meaning. -/
def keywords : List (List Char) :=
  ["alphabet:", "states:", "start:", "accept:"].map String.toList

/-- A name that can stand in a line without being taken for anything else. -/
structure IsLabel (label : String) : Prop where
  ne_nil : label.toList ≠ []
  visible : ∀ character ∈ label.toList, isBlank character = false
  no_separator : ¬ "---".toList <:+: label.toList
  no_arrow : ¬ "->".toList <:+: label.toList
  no_comment : ¬ "#".toList <+: label.toList
  no_keyword : ∀ keyword ∈ keywords, ¬ keyword <+: label.toList

structure Writable (automaton : Automaton) : Prop where
  label : ∀ state ∈ automaton.states, IsLabel state
  symbol : ∀ symbol ∈ automaton.alphabet, ∀ character ∈ symbol.toList,
    isBlank character = false

section Meaning

/-- What the line says is so. -/
def Holds (automaton : Automaton) : Line → Prop
  | .blank => True
  | .alphabet symbols => ∀ symbol ∈ symbols, symbol ∈ automaton.alphabet
  | .states labels => ∀ label ∈ labels, label ∈ automaton.states
  | .start label => label = automaton.start
  | .accept labels => ∀ label ∈ labels, label ∈ automaton.accepting
  | .transition edge => edge ∈ automaton.transitions

def ListsState (lines : List Line) (state : String) : Prop :=
  ∃ labels, .states labels ∈ lines ∧ state ∈ labels

def ListsSymbol (lines : List Line) (symbol : String) : Prop :=
  ∃ symbols, .alphabet symbols ∈ lines ∧ symbol ∈ symbols

def ListsAccepting (lines : List Line) (state : String) : Prop :=
  ∃ labels, .accept labels ∈ lines ∧ state ∈ labels

/-- The lines say what the automaton is, all of it and nothing else.  States
and symbols need not be listed where they are used. -/
structure Describes (lines : List Line) (automaton : Automaton) : Prop where
  holds : ∀ line ∈ lines, Holds automaton line
  start : .start automaton.start ∈ lines
  accepting : ∀ state ∈ automaton.accepting, ListsAccepting lines state
  transition : ∀ edge ∈ automaton.transitions, .transition edge ∈ lines
  state : ∀ state ∈ automaton.states, ListsState lines state ∨
    state = automaton.start ∨ state ∈ automaton.accepting ∨
      ∃ edge ∈ automaton.transitions, state ∈ [edge.source, edge.target]
  symbol : ∀ symbol ∈ automaton.alphabet, ListsSymbol lines symbol ∨
    ∃ edge ∈ automaton.transitions, symbol = edge.symbol

end Meaning

section Writing

/-- Words with blanks between them. -/
inductive Spaced : List (List Char) → List Char → Prop
  | single (word : List Char) : Spaced [word] word
  | cons (word : List Char) {words : List (List Char)} {gap text : List Char}
      (hgap : IsGap gap) (hne : gap ≠ []) (hlater : Spaced words text) :
      Spaced (word :: words) (word ++ (gap ++ text))

/-- A keyword and the values it lists. -/
inductive ListText (keyword : List Char) : List String → List Char → Prop
  | nothing : ListText keyword [] keyword
  | values {values : List String} {gap text : List Char} (hgap : IsGap gap)
      (hvalues : Spaced (values.map String.toList) text) :
      ListText keyword values (keyword ++ (gap ++ text))

inductive TransitionText (edge : Transition) : List Char → Prop
  | plain {text : List Char} (htext : Spaced
      [edge.source.toList, edge.symbol.toList, edge.target.toList] text) :
      TransitionText edge text
  | arrows {text : List Char} (htext : Spaced
      [edge.source.toList, "->".toList, edge.symbol.toList, "->".toList,
        edge.target.toList] text) :
      TransitionText edge text

inductive CoreText : Line → List Char → Prop
  | blank : CoreText .blank []
  | alphabet {symbols : List String} {text : List Char}
      (htext : ListText "alphabet:".toList symbols text) :
      CoreText (.alphabet symbols) text
  | states {labels : List String} {text : List Char}
      (htext : ListText "states:".toList labels text) :
      CoreText (.states labels) text
  | start (label : String) {gap : List Char} (hgap : IsGap gap) :
      CoreText (.start label) ("start:".toList ++ (gap ++ label.toList))
  | accept {labels : List String} {text : List Char}
      (htext : ListText "accept:".toList labels text) :
      CoreText (.accept labels) text
  | transition {edge : Transition} {text : List Char}
      (htext : TransitionText edge text) : CoreText (.transition edge) text

/-- A line with blanks around what counts. -/
inductive LineText (line : Line) : List Char → Prop
  | indented {lead core trail : List Char} (hlead : IsGap lead)
      (hcore : CoreText line core) (htrail : IsGap trail) :
      LineText line (lead ++ core ++ trail)

/-- The lines in any order, repeated and with empty lines among them. -/
def IsBlock (automaton : Automaton) (texts : List (List Char)) : Prop :=
  ∃ lines, Describes lines automaton ∧ List.Forall₂ LineText lines texts

/-- One block for each automaton, with separators between the blocks. -/
def IsText (automata : List Automaton) (text : String) : Prop :=
  ∃ blocks, List.Forall₂ IsBlock automata blocks ∧
    text = String.ofList
      (['\n'].intercalate (["---".toList].intercalate blocks))

end Writing

end RightLinear.Automaton.Format
