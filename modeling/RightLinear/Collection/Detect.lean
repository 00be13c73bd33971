import RightLinear.Text.Split

/-! Telling automata from grammars by the look of their lines. -/

namespace RightLinear.Collection

open Text

def automatonKeywords : List (List Char) :=
  ["states:", "alphabet:", "start:", "accept:"].map String.toList

/-- The lines that say something. -/
def contentLines (text : List Char) : List (List Char) :=
  ((lines text).map trim).filter fun line =>
    !line.isEmpty && line.head? != some '#'

def hasArrow (line : List Char) : Bool :=
  contains "->".toList line || line.contains '→'

/-- The parts of a line between its arrows. -/
def arrowParts (line : List Char) : List (List Char) :=
  (splitOn "->".toList (replace "→".toList "->".toList line)).map trim

/-- A keyword decides for automata, a bar or `::=` for grammars.  Otherwise
lines with two arrows are weighed against lines with one, and a text without
arrows is taken for an automaton if every line has three words. -/
def looksLikeAutomaton (text : List Char) : Bool :=
  let found := contentLines text
  let arrowLines := found.filter hasArrow
  if found.any fun line => automatonKeywords.any (·.isPrefixOf line) then true
  else if contains "::=".toList text || text.contains '|' then false
  else if arrowLines.isEmpty then
    !found.isEmpty && found.all fun line => (words line).length == 3
  else
    arrowLines.countP (fun line => (arrowParts line).length == 2) <
      arrowLines.countP (fun line => (arrowParts line).length == 3)

end RightLinear.Collection
