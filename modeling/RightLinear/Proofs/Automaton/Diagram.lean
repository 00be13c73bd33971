import Mathlib.Data.List.Perm.Basic
import RightLinear.Proofs.Automaton.Drawing

/-! Diagrams are faithful.  A graph is read statement by statement: what is set
for all nodes, or for all edges, holds for those that come after it and do not
set it themselves.  Read that way, the graph of an automaton has one node for
each state and one edge for each pair of states that transitions join.  The
automaton, except for symbols that no transition has, is read back from that
alone. -/

namespace RightLinear

namespace Dot

/-- Earlier attributes take precedence. -/
def valueOf? (name : String) (attributes : List Attribute) : Option String :=
  (attributes.find? fun item => item.name == name).map Attribute.value

structure DrawnNode where
  name : String
  label : Option String
  shape : Option String
  deriving DecidableEq

structure DrawnEdge where
  source : String
  target : String
  label : Option String
  deriving DecidableEq

/-- Elements of one kind in order, where `given` are the attributes that are set
for all that follow. -/
def elements {α : Type} (kind : String)
    (part? : List Attribute → Statement → Option α) :
    List Attribute → List Statement → List α
  | _, [] => []
  | given, .defaults element attributes :: rest =>
      elements kind part?
        (if element = kind then attributes ++ given else given) rest
  | given, statement :: rest =>
      (part? given statement).toList ++ elements kind part? given rest

def nodePart? (given : List Attribute) : Statement → Option DrawnNode
  | .node name attributes =>
      some ⟨name, valueOf? "label" (attributes ++ given),
        valueOf? "shape" (attributes ++ given)⟩
  | _ => none

def edgePart? (given : List Attribute) : Statement → Option DrawnEdge
  | .edge source target attributes =>
      some ⟨source, target, valueOf? "label" (attributes ++ given)⟩
  | _ => none

namespace Digraph

def nodes (graph : Digraph) : List DrawnNode :=
  elements "node" nodePart? [] graph.statements

def edges (graph : Digraph) : List DrawnEdge :=
  elements "edge" edgePart? [] graph.statements

def edgesBetween (graph : Digraph) (source target : String) : List DrawnEdge :=
  graph.edges.filter fun edge => edge.source = source ∧ edge.target = target

def labelOf? (graph : Digraph) (name : String) : Option String :=
  ((graph.nodes.map fun node => (node.name, node.label)).lookup name).join

end Digraph

theorem elements_of_no_defaults {α : Type} {kind : String}
    {part? : List Attribute → Statement → Option α} {given : List Attribute}
    {statements : List Statement}
    (h : ∀ element attributes, .defaults element attributes ∉ statements) :
    elements kind part? given statements =
      statements.filterMap (part? given) := by
  induction statements with
  | nil => rfl
  | cons statement rest ih =>
      have hrest := ih fun element attributes hmem =>
        h element attributes (List.mem_cons_of_mem _ hmem)
      have hstatement : ∀ element attributes,
          statement ≠ .defaults element attributes := by
        rintro element attributes rfl
        exact h element attributes List.mem_cons_self
      rw [elements, hrest, List.filterMap_cons]
      · cases part? given statement <;> rfl
      · exact hstatement

end Dot

open Dot

namespace Diagram

section Elements

variable (diagram : Diagram)

def drawnStatements : List Statement :=
  diagram.nodes.map Node.statement ++
    [.edge entryId diagram.start [⟨"penwidth", "2"⟩]] ++
      diagram.edges.map Edge.statement

theorem elements_drawnStatements {α : Type} {kind : String}
    {part? : List Attribute → Statement → Option α} {given : List Attribute} :
    elements kind part? given diagram.drawnStatements =
      diagram.nodes.filterMap (part? given ∘ Node.statement) ++
        (part? given (.edge entryId diagram.start [⟨"penwidth", "2"⟩])).toList ++
          diagram.edges.filterMap (part? given ∘ Edge.statement) := by
  rw [elements_of_no_defaults, drawnStatements]
  · simp only [List.filterMap_append, List.filterMap_map]
    rfl
  · intro element attributes hmem
    simp [drawnStatements, Node.statement, Edge.statement] at hmem

theorem nodes_toDigraph :
    diagram.toDigraph.nodes =
      ⟨entryId, none, some "point"⟩ :: diagram.nodes.map fun node =>
        ⟨node.id, some node.label,
          some (if node.accepting then "doublecircle" else "circle")⟩ := by
  have hentry : diagram.toDigraph.nodes = ⟨entryId, none, some "point"⟩ ::
      elements "node" nodePart? nodeDefaults diagram.drawnStatements := rfl
  have hnode : nodePart? nodeDefaults ∘ Node.statement = fun node =>
      some ⟨node.id, some node.label,
        some (if node.accepting then "doublecircle" else "circle")⟩ := by
    funext node
    rw [Function.comp_apply, Node.statement]
    cases node.accepting <;> rfl
  have hedge : nodePart? nodeDefaults ∘ Edge.statement = fun _ => none := rfl
  rw [hentry, elements_drawnStatements, hnode, hedge, List.filterMap_eq_map',
    List.filterMap_none]
  simp [nodePart?]

theorem edges_toDigraph :
    diagram.toDigraph.edges =
      ⟨entryId, diagram.start, none⟩ :: diagram.edges.map fun edge =>
        ⟨edge.source, edge.target, some (", ".intercalate edge.symbols)⟩ := by
  have hedges : diagram.toDigraph.edges =
      elements "edge" edgePart? edgeDefaults diagram.drawnStatements := rfl
  have hnode : edgePart? edgeDefaults ∘ Node.statement = fun _ => none := rfl
  have hedge : edgePart? edgeDefaults ∘ Edge.statement = fun edge =>
      some ⟨edge.source, edge.target,
        some (", ".intercalate edge.symbols)⟩ := rfl
  rw [hedges, elements_drawnStatements, hnode, hedge, List.filterMap_eq_map',
    List.filterMap_none]
  rfl

end Elements

/-- How a state is drawn. -/
def drawnState (automaton : Automaton) (name state : String) : DrawnNode :=
  ⟨name, some state,
    some (if state ∈ automaton.accepting then "doublecircle" else "circle")⟩

/-- The graph is a picture of the automaton.  States are numbered in the order of
their labels, and two states have one edge for all symbols between them. -/
structure Shows (graph : Digraph) (automaton : Automaton) : Prop where
  nodes : graph.nodes = ⟨entryId, none, some "point"⟩ ::
    automaton.states.toList.mapIdx fun index state =>
      drawnState automaton ("q" ++ toString index) state
  distinct : (graph.nodes.map DrawnNode.name).Nodup
  entry : (graph.edges.filter fun edge => edge.source = entryId) =
    [⟨entryId, automaton.nodeId automaton.start, none⟩]
  joined : ∀ first ∈ automaton.states, ∀ second ∈ automaton.states,
    ∃ symbols : SortedSet String,
      (∀ symbol, symbol ∈ symbols ↔
        ⟨first, symbol, second⟩ ∈ automaton.transitions) ∧
      graph.edgesBetween (automaton.nodeId first) (automaton.nodeId second) =
        if symbols.isEmpty then []
        else [⟨automaton.nodeId first, automaton.nodeId second,
          some (", ".intercalate symbols.toList)⟩]
  declared : ∀ edge ∈ graph.edges,
    edge.source ∈ graph.nodes.map DrawnNode.name ∧
      edge.target ∈ graph.nodes.map DrawnNode.name ∧
        edge.target ≠ entryId

section Shows

variable {automaton : Automaton} {transitions : List Transition}

theorem nodes_diagramOf (h : transitions.Perm automaton.transitions.toList) :
    (automaton.diagramOf transitions).toDigraph.nodes =
      ⟨entryId, none, some "point"⟩ :: automaton.states.toList.map fun state =>
        drawnState automaton (automaton.nodeId state) state := by
  rw [nodes_toDigraph, automaton.diagramOf_eq fun _ => h.mem_iff.mp,
    List.map_map]
  simp [Automaton.nodeOf, drawnState]

theorem edges_diagramOf (h : transitions.Perm automaton.transitions.toList) :
    (automaton.diagramOf transitions).toDigraph.edges =
      ⟨entryId, automaton.nodeId automaton.start, none⟩ ::
        (sortedJoints transitions).map fun joint =>
          ⟨automaton.nodeId joint.1.1, automaton.nodeId joint.1.2,
            some (", ".intercalate joint.2.mergeSort)⟩ := by
  rw [edges_toDigraph, automaton.diagramOf_eq fun _ => h.mem_iff.mp,
    List.map_map]
  rfl

/-- Two states have different nodes, so the edges between the nodes are those of
the joint of the states. -/
theorem edgesBetween_diagramOf
    (h : transitions.Perm automaton.transitions.toList) (first second : String) :
    (automaton.diagramOf transitions).toDigraph.edgesBetween
        (automaton.nodeId first) (automaton.nodeId second) =
      if symbolsBetween transitions (first, second) = [] then []
      else [⟨automaton.nodeId first, automaton.nodeId second, some
        (", ".intercalate
          (symbolsBetween transitions (first, second)).mergeSort)⟩] := by
  have hends : ∀ joint ∈ sortedJoints transitions,
      (decide (automaton.nodeId joint.1.1 = automaton.nodeId first ∧
        automaton.nodeId joint.1.2 = automaton.nodeId second)) =
      decide (joint.1 = (first, second)) := by
    intro joint hjoint
    obtain ⟨hsource, htarget⟩ :=
      automaton.ends_mem (fun _ => h.mem_iff.mp) joint hjoint
    rw [decide_eq_decide, Prod.ext_iff]
    exact ⟨fun ⟨hone, htwo⟩ => ⟨Automaton.nodeId_injective hsource hone,
        Automaton.nodeId_injective htarget htwo⟩,
      fun ⟨hone, htwo⟩ => ⟨congrArg _ hone, congrArg _ htwo⟩⟩
  have hentry : ¬ (entryId = automaton.nodeId first ∧
      automaton.nodeId automaton.start = automaton.nodeId second) :=
    fun hboth => automaton.nodeId_ne_entryId first hboth.1.symm
  have hfilter := (List.filter_congr hends).trans
    (filter_sortedJoints transitions (first, second))
  rw [Digraph.edgesBetween, edges_diagramOf h,
    List.filter_cons_of_neg (by simpa using hentry), List.filter_map]
  refine (congrArg (List.map _) hfilter).trans ?_
  split <;> rfl

theorem names_diagramOf (h : transitions.Perm automaton.transitions.toList) :
    (automaton.diagramOf transitions).toDigraph.nodes.map DrawnNode.name =
      entryId :: automaton.states.toList.map automaton.nodeId := by
  rw [nodes_diagramOf h, List.map_cons, List.map_map]
  rfl

theorem shows_diagramOf (h : transitions.Perm automaton.transitions.toList) :
    Shows (automaton.diagramOf transitions).toDigraph automaton where
  nodes := by
    rw [nodes_diagramOf h, Automaton.mapIdx_states (drawnState automaton)]
  distinct := by
    rw [names_diagramOf h, List.nodup_cons, List.mem_map]
    refine ⟨?_, automaton.states.nodup.map_on fun first hfirst second _ heq =>
      Automaton.nodeId_injective hfirst heq⟩
    rintro ⟨state, -, hstate⟩
    exact automaton.nodeId_ne_entryId state hstate
  entry := by
    rw [edges_diagramOf h, List.filter_cons_of_pos (by simp),
      List.filter_eq_nil_iff.mpr]
    rw [List.forall_mem_map]
    intro joint _
    simpa using automaton.nodeId_ne_entryId joint.1.1
  joined := by
    intro first _ second _
    have hnodup : transitions.Nodup :=
      h.nodup_iff.mpr automaton.transitions.nodup
    refine ⟨⟨(symbolsBetween transitions (first, second)).mergeSort,
      sorted_mergeSort (nodup_symbolsBetween hnodup)⟩, ?_, ?_⟩
    · intro symbol
      rw [← SortedSet.mem_toList, List.mem_mergeSort, mem_symbolsBetween]
      exact h.mem_iff
    · rw [edgesBetween_diagramOf h, SortedSet.isEmpty,
        (List.mergeSort_perm _ _).isEmpty_eq]
      simp only [List.isEmpty_iff]
  declared := by
    rw [names_diagramOf h, edges_diagramOf h, List.forall_mem_cons,
      List.forall_mem_map]
    have hname : ∀ state ∈ automaton.states, automaton.nodeId state ∈
        entryId :: automaton.states.toList.map automaton.nodeId :=
      fun state hstate =>
        List.mem_cons_of_mem _ (List.mem_map_of_mem hstate)
    refine ⟨⟨List.mem_cons_self, hname _ automaton.start_mem,
      automaton.nodeId_ne_entryId _⟩, ?_⟩
    intro joint hjoint
    obtain ⟨hsource, htarget⟩ :=
      automaton.ends_mem (fun _ => h.mem_iff.mp) joint hjoint
    exact ⟨hname _ hsource, hname _ htarget, automaton.nodeId_ne_entryId _⟩

end Shows

/-! Reading a graph back, by what its statements say alone. -/

/-- What a graph says of an automaton. -/
structure Reading where
  states : SortedSet String
  start : Option String
  accepting : SortedSet String
  transitions : SortedSet Transition
  deriving DecidableEq

/-- Symbols are single characters, so every third character is one, whichever
characters they are. -/
def symbolsIn : List Char → List String
  | [] => []
  | character :: _ :: _ :: later =>
      String.singleton character :: symbolsIn later
  | character :: _ => [String.singleton character]

def transitionsOf (graph : Digraph) (edge : DrawnEdge) : List Transition :=
  match graph.labelOf? edge.source, graph.labelOf? edge.target, edge.label with
  | some source, some target, some label =>
      (symbolsIn label.toList).map fun symbol => ⟨source, symbol, target⟩
  | _, _, _ => []

def reading (graph : Digraph) : Reading where
  states := SortedSet.ofList (graph.nodes.filterMap DrawnNode.label)
  start :=
    (graph.edges.find? fun edge => edge.source = entryId).bind fun edge =>
      graph.labelOf? edge.target
  accepting := SortedSet.ofList
    ((graph.nodes.filter fun node =>
      node.shape = some "doublecircle").filterMap DrawnNode.label)
  transitions := SortedSet.ofList (graph.edges.flatMap (transitionsOf graph))

/-! A picture is read back. -/

theorem symbolsIn_intercalate {symbols : List String}
    (h : ∀ symbol ∈ symbols, symbol.length = 1) :
    symbolsIn (", ".intercalate symbols).toList = symbols := by
  rw [String.toList_intercalate]
  induction symbols with
  | nil => rfl
  | cons symbol rest ih =>
      have hlength := h symbol List.mem_cons_self
      rw [← String.length_toList, List.length_eq_one_iff] at hlength
      obtain ⟨character, hcharacter⟩ := hlength
      have hsymbol : String.singleton character = symbol := by
        rw [← String.toList_inj, String.toList_singleton, hcharacter]
      have hrest := ih fun other hother =>
        h other (List.mem_cons_of_mem _ hother)
      rw [List.map_cons, hcharacter]
      cases rest with
      | nil => exact congrArg (fun found => [found]) hsymbol
      | cons next rest =>
          rw [List.map_cons] at hrest ⊢
          rw [List.intercalate_cons_cons]
          exact congrArg₂ List.cons hsymbol hrest

namespace Shows

variable {graph : Digraph} {automaton : Automaton}

theorem nodes_eq (h : Shows graph automaton) :
    graph.nodes = ⟨entryId, none, some "point"⟩ ::
      automaton.states.toList.map fun state =>
        drawnState automaton (automaton.nodeId state) state := by
  rw [h.nodes, Automaton.mapIdx_states (drawnState automaton)]

theorem labelOf?_name (h : Shows graph automaton)
    {node : DrawnNode} (hnode : node ∈ graph.nodes) :
    graph.labelOf? node.name = node.label := by
  have hnodup : ((graph.nodes.map fun node => (node.name, node.label)).map
      Prod.fst).Nodup := by
    rw [List.map_map]
    exact h.distinct
  rw [Digraph.labelOf?, (lookup_eq_some_iff hnodup).mpr
    (List.mem_map_of_mem hnode), Option.join_some]

theorem labelOf?_entryId (h : Shows graph automaton) :
    graph.labelOf? entryId = none := by
  have hentry : ⟨entryId, none, some "point"⟩ ∈ graph.nodes := by
    rw [h.nodes_eq]
    exact List.mem_cons_self
  exact h.labelOf?_name hentry

theorem labelOf?_nodeId (h : Shows graph automaton) {state : String}
    (hstate : state ∈ automaton.states) :
    graph.labelOf? (automaton.nodeId state) = some state := by
  have hnode : drawnState automaton (automaton.nodeId state) state ∈
      graph.nodes := by
    rw [h.nodes_eq]
    exact List.mem_cons_of_mem _ (List.mem_map_of_mem hstate)
  exact h.labelOf?_name hnode

theorem states_reading (h : Shows graph automaton) :
    (reading graph).states = automaton.states := by
  ext state
  rw [reading, SortedSet.mem_ofList, h.nodes_eq, List.filterMap_cons_none rfl,
    List.filterMap_map]
  simp [drawnState, Function.comp_def]

theorem accepting_reading (h : Shows graph automaton) :
    (reading graph).accepting = automaton.accepting := by
  have hshape : ∀ state, (drawnState automaton (automaton.nodeId state)
      state).shape = some "doublecircle" ↔ state ∈ automaton.accepting := by
    intro state
    simp [drawnState]
  ext state
  rw [reading, SortedSet.mem_ofList, h.nodes_eq,
    List.filter_cons_of_neg (by simp), List.filter_map, List.filterMap_map]
  simp only [List.mem_filterMap, List.mem_filter, Function.comp_apply, hshape,
    decide_eq_true_iff]
  constructor
  · rintro ⟨other, ⟨-, hother⟩, hlabel⟩
    rwa [← Option.some.inj hlabel]
  · intro hstate
    exact ⟨state, ⟨automaton.accepting_mem state hstate, hstate⟩, rfl⟩

theorem start_reading (h : Shows graph automaton) :
    (reading graph).start = some automaton.start := by
  rw [reading, ← List.head?_filter, h.entry]
  exact h.labelOf?_nodeId automaton.start_mem

theorem exists_of_mem_names (h : Shows graph automaton) {name : String}
    (hname : name ∈ graph.nodes.map DrawnNode.name) (hne : name ≠ entryId) :
    ∃ state ∈ automaton.states, name = automaton.nodeId state := by
  rw [h.nodes_eq, List.map_cons, List.map_map, List.mem_cons] at hname
  obtain ⟨state, hstate, heq⟩ := List.mem_map.mp (hname.resolve_left hne)
  exact ⟨state, hstate, heq.symm⟩

/-- The edge between the two states lists the symbols between them. -/
structure Lists (automaton : Automaton) (first second : String)
    (edge : DrawnEdge) : Prop where
  source : edge.source = automaton.nodeId first
  target : edge.target = automaton.nodeId second
  label : ∃ symbols : List String,
    edge.label = some (", ".intercalate symbols) ∧
      ∀ symbol, symbol ∈ symbols ↔
        ⟨first, symbol, second⟩ ∈ automaton.transitions

theorem lists_of_mem (h : Shows graph automaton) {first second : String}
    (hfirst : first ∈ automaton.states) (hsecond : second ∈ automaton.states)
    {edge : DrawnEdge} (hedge : edge ∈ graph.edges)
    (hsource : edge.source = automaton.nodeId first)
    (htarget : edge.target = automaton.nodeId second) :
    Lists automaton first second edge := by
  obtain ⟨symbols, hsymbols, hjoined⟩ := h.joined first hfirst second hsecond
  have hbetween : edge ∈ graph.edgesBetween (automaton.nodeId first)
      (automaton.nodeId second) :=
    List.mem_filter.mpr ⟨hedge, decide_eq_true ⟨hsource, htarget⟩⟩
  rw [hjoined] at hbetween
  split at hbetween
  · contradiction
  · rw [List.mem_singleton] at hbetween
    refine ⟨hsource, htarget, symbols.toList, ?_, hsymbols⟩
    rw [hbetween]

theorem exists_edge (h : Shows graph automaton) {transition : Transition}
    (htransition : transition ∈ automaton.transitions) :
    ∃ edge ∈ graph.edges,
      Lists automaton transition.source transition.target edge := by
  have hfirst := automaton.source_mem transition htransition
  have hsecond := automaton.target_mem transition htransition
  obtain ⟨symbols, hsymbols, hjoined⟩ := h.joined _ hfirst _ hsecond
  have hnonempty : symbols.isEmpty = false :=
    SortedSet.isEmpty_eq_false_iff.mpr
      ⟨transition.symbol, (hsymbols _).mpr htransition⟩
  rw [hnonempty, if_neg Bool.false_ne_true] at hjoined
  have hbetween := hjoined ▸ List.mem_singleton_self _
  obtain ⟨hedge, -⟩ := List.mem_filter.mp hbetween
  exact ⟨_, hedge, h.lists_of_mem hfirst hsecond hedge rfl rfl⟩

/-- An edge from the entry stands for no transition, as the entry is no state. -/
theorem transitionsOf_entry (h : Shows graph automaton) {edge : DrawnEdge}
    (hsource : edge.source = entryId) : transitionsOf graph edge = [] := by
  rw [transitionsOf, hsource, h.labelOf?_entryId]

theorem mem_transitionsOf (h : Shows graph automaton) {first second : String}
    (hfirst : first ∈ automaton.states) (hsecond : second ∈ automaton.states)
    {edge : DrawnEdge} (hedge : Lists automaton first second edge)
    {transition : Transition} :
    transition ∈ transitionsOf graph edge ↔
      transition.source = first ∧ transition.target = second ∧
        transition ∈ automaton.transitions := by
  obtain ⟨symbols, hlabel, hsymbols⟩ := hedge.label
  have hlength : ∀ symbol ∈ symbols, symbol.length = 1 := fun symbol hsymbol =>
    automaton.length_symbol _
      (automaton.symbol_mem _ ((hsymbols symbol).mp hsymbol))
  have hread : transitionsOf graph edge =
      symbols.map fun symbol => ⟨first, symbol, second⟩ := by
    rw [transitionsOf, hedge.source, hedge.target, hlabel,
      h.labelOf?_nodeId hfirst, h.labelOf?_nodeId hsecond]
    exact congrArg _ (symbolsIn_intercalate hlength)
  rw [hread, List.mem_map]
  constructor
  · rintro ⟨symbol, hsymbol, rfl⟩
    exact ⟨rfl, rfl, (hsymbols symbol).mp hsymbol⟩
  · rintro ⟨rfl, rfl, htransition⟩
    exact ⟨transition.symbol, (hsymbols _).mpr htransition, rfl⟩

theorem transitions_reading (h : Shows graph automaton) :
    (reading graph).transitions = automaton.transitions := by
  ext transition
  rw [reading, SortedSet.mem_ofList, List.mem_flatMap]
  constructor
  · rintro ⟨edge, hedge, htransition⟩
    have hentry : edge.source ≠ entryId := by
      intro heq
      rw [h.transitionsOf_entry heq] at htransition
      contradiction
    obtain ⟨hsource, htarget, hne⟩ := h.declared edge hedge
    obtain ⟨first, hfirst, hsource⟩ := h.exists_of_mem_names hsource hentry
    obtain ⟨second, hsecond, htarget⟩ := h.exists_of_mem_names htarget hne
    have hlists := h.lists_of_mem hfirst hsecond hedge hsource htarget
    exact ((h.mem_transitionsOf hfirst hsecond hlists).mp htransition).2.2
  · intro htransition
    obtain ⟨edge, hedge, hlists⟩ := h.exists_edge htransition
    exact ⟨edge, hedge, (h.mem_transitionsOf
      (automaton.source_mem _ htransition) (automaton.target_mem _ htransition)
      hlists).mpr ⟨rfl, rfl, htransition⟩⟩

/-- Whatever graph is a picture of an automaton, reading it gives the
automaton. -/
theorem reading_eq (h : Shows graph automaton) :
    reading graph = ⟨automaton.states, some automaton.start,
      automaton.accepting, automaton.transitions⟩ := by
  rw [← h.states_reading, ← h.start_reading, ← h.accepting_reading,
    ← h.transitions_reading]

end Shows

end Diagram

namespace Automaton

open Diagram

/-- Different automata over one alphabet have different diagrams. -/
theorem eq_of_diagram_eq {first second : Automaton}
    (halphabet : first.alphabet = second.alphabet)
    (h : first.diagram.toDigraph = second.diagram.toDigraph) :
    first = second := by
  have hfirst := (shows_diagramOf (.refl first.transitions.toList)).reading_eq
  have hsecond := (shows_diagramOf (.refl second.transitions.toList)).reading_eq
  rw [← diagram, h, diagram, hsecond, Reading.mk.injEq] at hfirst
  obtain ⟨hstates, hstart, haccepting, htransitions⟩ := hfirst
  exact eq_of_fields hstates.symm halphabet htransitions.symm
    (Option.some.inj hstart).symm haccepting.symm

/-- The order in which transitions are met makes no difference. -/
theorem diagramOf_faithful (automaton : Automaton)
    {transitions : List Transition}
    (h : transitions.Perm automaton.transitions.toList) :
    Shows (automaton.diagramOf transitions).toDigraph automaton ∧
      reading (automaton.diagramOf transitions).toDigraph =
        ⟨automaton.states, some automaton.start, automaton.accepting,
          automaton.transitions⟩ :=
  ⟨shows_diagramOf h, (shows_diagramOf h).reading_eq⟩

/-- Its symbols are those that labels are written with. -/
def punctuation : Automaton where
  states := SortedSet.ofList ["sentence", "end"]
  alphabet := SortedSet.ofList [",", " ", "."]
  transitions := SortedSet.ofList
    [⟨"sentence", ",", "sentence"⟩, ⟨"sentence", " ", "sentence"⟩,
      ⟨"sentence", ".", "end"⟩]
  start := "sentence"
  accepting := SortedSet.ofList ["end"]
  length_symbol := by decide +kernel
  start_mem := by decide +kernel
  accepting_mem := by decide +kernel
  source_mem := by decide +kernel
  target_mem := by decide +kernel
  symbol_mem := by decide +kernel

def punctuationTransitions : List Transition :=
  [⟨"sentence", ",", "sentence"⟩, ⟨"sentence", ".", "end"⟩,
    ⟨"sentence", " ", "sentence"⟩]

theorem punctuation_diagram :
    punctuationTransitions.Perm punctuation.transitions.toList ∧
      Shows (punctuation.diagramOf punctuationTransitions).toDigraph
        punctuation ∧
      reading (punctuation.diagramOf punctuationTransitions).toDigraph =
        ⟨punctuation.states, some punctuation.start, punctuation.accepting,
          punctuation.transitions⟩ := by
  have hperm : punctuationTransitions.Perm punctuation.transitions.toList := by
    decide +kernel
  exact ⟨hperm, diagramOf_faithful punctuation hperm⟩

end Automaton

end RightLinear
