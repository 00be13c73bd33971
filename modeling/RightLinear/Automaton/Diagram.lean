import RightLinear.Automaton.Summary
import RightLinear.Dot

/-! The picture of an automaton: one node for each state, one edge for each
pair of states that transitions join, and an edge from nowhere to the start.
States get their ids as they are met. -/

namespace RightLinear

namespace Diagram

structure Node where
  id : String
  label : String
  accepting : Bool
  deriving DecidableEq

structure Edge where
  source : String
  target : String
  symbols : List String
  isLoop : Bool
  deriving DecidableEq

end Diagram

structure Diagram where
  title : String
  nodes : List Diagram.Node
  start : String
  edges : List Diagram.Edge
  deriving DecidableEq

namespace Diagram

/-- The id of a state, which is a new one where the state has none. -/
def idOf (state : String) : StateM (Registry String) String := do
  let known ← get
  match known.get? state with
  | some id => return id
  | none =>
      let id := "q" ++ toString known.size
      set (known.insert state id)
      return id

/-- Two states with the symbols that lead from the first to the second. -/
abbrev Joint := (String × String) × List String

/-- Transitions between the same two states come together. -/
def joints (transitions : List Transition) : List Joint :=
  transitions.foldl
    (fun found transition =>
      let ends := (transition.source, transition.target)
      Registry.putInto ends
        ((found.lookup ends).getD [] ++ [transition.symbol]) found)
    []

def sortedJoints (transitions : List Transition) : List Joint :=
  (joints transitions).mergeSort fun first second =>
    decide (first.1.1 < second.1.1) ||
      first.1.1 == second.1.1 && decide (first.1.2 ≤ second.1.2)

def nodeFor (accepting : SortedSet String) (state : String) :
    StateM (Registry String) Node := do
  return ⟨← idOf state, state, decide (state ∈ accepting)⟩

def edgeFor (joint : Joint) : StateM (Registry String) Edge := do
  let source ← idOf joint.1.1
  let target ← idOf joint.1.2
  return ⟨source, target, joint.2.mergeSort, decide (joint.1.1 = joint.1.2)⟩

end Diagram

namespace Automaton

/-- The transitions may come in any order. -/
def drawing (automaton : Automaton) (transitions : List Transition) :
    StateM (Registry String) Diagram := do
  let nodes ← automaton.states.toList.mapM (Diagram.nodeFor automaton.accepting)
  let start ← Diagram.idOf automaton.start
  let edges ← (Diagram.sortedJoints transitions).mapM Diagram.edgeFor
  return ⟨automaton.kindName, nodes, start, edges⟩

def diagramOf (automaton : Automaton) (transitions : List Transition) : Diagram :=
  ((automaton.drawing transitions).run ∅).1

def diagram (automaton : Automaton) : Diagram :=
  automaton.diagramOf automaton.transitions.toList

end Automaton

namespace Diagram

open Dot

def entryId : String := "__start__"

def graphDefaults (title : String) : List Attribute :=
  [⟨"bgcolor", "white"⟩, ⟨"fontname", "Arial"⟩, ⟨"fontsize", "14"⟩,
    ⟨"label", title⟩, ⟨"labelloc", "t"⟩, ⟨"nodesep", "0.8"⟩, ⟨"pad", "0.5"⟩,
    ⟨"rankdir", "LR"⟩, ⟨"ranksep", "1.2"⟩, ⟨"splines", "true"⟩]

def nodeDefaults : List Attribute :=
  [⟨"color", "black"⟩, ⟨"fillcolor", "lightblue"⟩, ⟨"fontname", "Arial"⟩,
    ⟨"fontsize", "14"⟩, ⟨"penwidth", "2"⟩, ⟨"shape", "circle"⟩,
    ⟨"style", "filled"⟩]

def edgeDefaults : List Attribute :=
  [⟨"arrowsize", "0.8"⟩, ⟨"color", "black"⟩, ⟨"fontname", "Arial"⟩,
    ⟨"fontsize", "12"⟩, ⟨"penwidth", "1.5"⟩]

def entryAttributes : List Attribute :=
  [⟨"shape", "point"⟩, ⟨"style", "invis"⟩, ⟨"width", "0.01"⟩]

def Node.statement (node : Node) : Statement :=
  .node node.id (⟨"label", node.label⟩ ::
    if node.accepting then
      [⟨"fillcolor", "lightgreen"⟩, ⟨"shape", "doublecircle"⟩]
    else [])

/-- A loop leaves and enters its node at the top. -/
def Edge.statement (edge : Edge) : Statement :=
  .edge edge.source edge.target
    (⟨"label", ", ".intercalate edge.symbols⟩ ::
      if edge.isLoop then
        [⟨"headport", "n"⟩, ⟨"tailport", "n"⟩]
      else [])

def toDigraph (diagram : Diagram) : Digraph where
  name := diagram.title
  statements :=
    [.defaults "graph" (graphDefaults diagram.title),
      .defaults "node" nodeDefaults,
      .defaults "edge" edgeDefaults,
      .node entryId entryAttributes] ++
    diagram.nodes.map Node.statement ++
    [.edge entryId diagram.start [⟨"penwidth", "2"⟩]] ++
    diagram.edges.map Edge.statement

def source (diagram : Diagram) : String :=
  diagram.toDigraph.source

end Diagram

end RightLinear
