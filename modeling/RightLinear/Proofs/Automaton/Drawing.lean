import Mathlib.Data.List.Induction
import Mathlib.Data.List.Nodup
import RightLinear.Automaton.Diagram
import RightLinear.Text.DecimalDigit

/-! What is drawn for an automaton.  States are met in the order of their labels
before anything else is drawn, so they are numbered in that order, and whatever
comes later finds all of them numbered.  Transitions between the same two states
come together, in whichever order they are listed. -/

namespace RightLinear

/-- What comes first decides what the rest starts from. -/
theorem run_bind_eq {σ α β : Type} {first : StateM σ α} {rest : α → StateM σ β}
    {state later : σ} {result : α} (h : first.run state = (result, later)) :
    (first >>= rest).run state = (rest result).run later := by
  rw [StateT.run_bind, h]
  rfl

namespace Automaton

/-- States are numbered in the order of their labels. -/
def nodeId (automaton : Automaton) (state : String) : String :=
  "q" ++ toString (automaton.states.toList.idxOf state)

variable {automaton : Automaton}

theorem nodeId_injective {first second : String}
    (hfirst : first ∈ automaton.states)
    (h : automaton.nodeId first = automaton.nodeId second) : first = second := by
  have hletters := congrArg String.toList h
  rw [nodeId, nodeId, String.toList_append, String.toList_append,
    List.append_cancel_left_eq] at hletters
  have hindex := Text.toString_injective (String.toList_injective hletters)
  exact (List.idxOf_inj hfirst).mp hindex

theorem nodeId_ne_entryId (automaton : Automaton) (state : String) :
    automaton.nodeId state ≠ Diagram.entryId := by
  intro h
  have hletters := congrArg (·.toList.head?) h
  simp [nodeId, Diagram.entryId] at hletters

theorem mapIdx_states {α : Type} (draw : String → String → α) :
    (automaton.states.toList.mapIdx fun index state =>
        draw ("q" ++ toString index) state) =
      automaton.states.toList.map fun state =>
        draw (automaton.nodeId state) state := by
  refine List.ext_getElem (by simp) ?_
  intro index hindex _
  rw [List.length_mapIdx] at hindex
  rw [List.getElem_mapIdx, List.getElem_map, nodeId,
    automaton.states.nodup.idxOf_getElem index hindex]

def nodeOf (automaton : Automaton) (state : String) : Diagram.Node :=
  ⟨automaton.nodeId state, state, decide (state ∈ automaton.accepting)⟩

def edgeOf (automaton : Automaton) (joint : Diagram.Joint) : Diagram.Edge :=
  ⟨automaton.nodeId joint.1.1, automaton.nodeId joint.1.2, joint.2.mergeSort,
    decide (joint.1.1 = joint.1.2)⟩

end Automaton

namespace Diagram

section Ids

variable {known : Registry String} {state id : String}

theorem idOf_known (h : known.get? state = some id) :
    (idOf state).run known = (id, known) := by
  simp only [idOf, StateT.run_bind, StateT.run_get, pure_bind, h,
    StateT.run_pure]
  rfl

theorem idOf_new (h : known.get? state = none) :
    (idOf state).run known =
      ("q" ++ toString known.size,
        known.insert state ("q" ++ toString known.size)) := by
  simp only [idOf, StateT.run_bind, StateT.run_get, pure_bind, h,
    StateT.run_set, StateT.run_pure]
  rfl

/-- The ids of all states of `automaton` up to the last one in `states`. -/
def Numbers (known : Registry String) (automaton : Automaton)
    (states : List String) : Prop :=
  known.entries = states.map fun state => (state, automaton.nodeId state)

variable {automaton : Automaton} {done rest : List String}

theorem Numbers.idOf (h : Numbers known automaton automaton.states.toList)
    (hstate : state ∈ automaton.states) :
    (idOf state).run known = (automaton.nodeId state, known) := by
  apply idOf_known
  rw [Registry.get?_eq_some_iff, h]
  exact List.mem_map_of_mem hstate

/-- The next state in order gets the next id. -/
theorem Numbers.idOf_next (h : Numbers known automaton done)
    (hall : automaton.states.toList = done ++ state :: rest) :
    ∃ later, (Diagram.idOf state).run known = (automaton.nodeId state, later) ∧
      Numbers later automaton (done ++ [state]) := by
  have hnodup := automaton.states.nodup
  rw [hall] at hnodup
  have hnew : state ∉ done := fun hmem =>
    (List.nodup_append.mp hnodup).2.2 state hmem state List.mem_cons_self rfl
  have hnames : state ∉ known.entries.map Prod.fst := by
    rw [h, List.map_map]
    intro hmem
    obtain ⟨other, hother, rfl⟩ := List.mem_map.mp hmem
    exact hnew hother
  have hnone : known.get? state = none := by
    rw [Registry.get?, List.lookup_eq_none_iff]
    intro entry hentry
    rw [bne_iff_ne]
    rintro rfl
    exact hnames (List.mem_map_of_mem hentry)
  have hid : "q" ++ toString known.size = automaton.nodeId state := by
    rw [Automaton.nodeId, hall, List.idxOf_append, if_neg hnew,
      List.idxOf_cons_self, Nat.zero_add, Registry.size, h, List.length_map]
  refine ⟨known.insert state (automaton.nodeId state), ?_, ?_⟩
  · rw [idOf_new hnone, hid]
  · rw [Numbers, List.map_append, ← h]
    exact Registry.putInto_of_not_mem hnames

theorem nodes_run (h : Numbers known automaton done)
    (hall : automaton.states.toList = done ++ rest) :
    ∃ later, (rest.mapM (nodeFor automaton.accepting)).run known =
        (rest.map automaton.nodeOf, later) ∧
      Numbers later automaton automaton.states.toList := by
  induction rest generalizing done known with
  | nil =>
      rw [List.append_nil] at hall
      exact ⟨known, rfl, hall ▸ h⟩
  | cons state rest ih =>
      obtain ⟨next, hid, hnext⟩ := h.idOf_next hall
      obtain ⟨later, hrest, hlater⟩ := ih hnext (by simp [hall])
      refine ⟨later, ?_, hlater⟩
      rw [List.mapM_cons, nodeFor, bind_assoc, run_bind_eq hid, pure_bind,
        run_bind_eq hrest]
      rfl

end Ids

section Joints

variable {transitions : List Transition} {ends : String × String}

theorem joints_append (earlier : List Transition) (transition : Transition) :
    joints (earlier ++ [transition]) =
      Registry.putInto (transition.source, transition.target)
        (((joints earlier).lookup (transition.source, transition.target)).getD []
          ++ [transition.symbol]) (joints earlier) := by
  rw [joints, List.foldl_append]
  rfl

theorem nodup_joints (transitions : List Transition) :
    ((joints transitions).map Prod.fst).Nodup := by
  induction transitions using List.reverseRecOn with
  | nil => exact List.nodup_nil
  | append_singleton earlier transition ih =>
      rw [joints_append]
      exact Registry.nodup_putInto ih

/-- The symbol of a transition between the two states, if it is one. -/
def symbolBetween? (ends : String × String) (transition : Transition) :
    Option String :=
  if (transition.source, transition.target) = ends then some transition.symbol
  else none

theorem symbolBetween?_eq_some_iff {transition : Transition} {symbol : String} :
    symbolBetween? ends transition = some symbol ↔
      transition = ⟨ends.1, symbol, ends.2⟩ := by
  obtain ⟨source, found, target⟩ := transition
  obtain ⟨first, second⟩ := ends
  grind [symbolBetween?]

/-- All symbols between two states, as often as there are transitions. -/
def symbolsBetween (transitions : List Transition) (ends : String × String) :
    List String :=
  transitions.filterMap (symbolBetween? ends)

theorem mem_symbolsBetween {symbol : String} :
    symbol ∈ symbolsBetween transitions ends ↔
      ⟨ends.1, symbol, ends.2⟩ ∈ transitions := by
  rw [symbolsBetween, List.mem_filterMap]
  simp only [symbolBetween?_eq_some_iff, exists_eq_right]

theorem nodup_symbolsBetween (h : transitions.Nodup) :
    (symbolsBetween transitions ends).Nodup := by
  refine h.filterMap ?_
  intro first second symbol hfirst hsecond
  rw [symbolBetween?_eq_some_iff.mp hfirst,
    symbolBetween?_eq_some_iff.mp hsecond]

theorem sorted_mergeSort {symbols : List String} (h : symbols.Nodup) :
    symbols.mergeSort.Pairwise (· < ·) := by
  have hle : symbols.mergeSort.Pairwise (· ≤ ·) := by
    refine (List.pairwise_mergeSort ?_ ?_ _).imp of_decide_eq_true
    · intro first second third hfirst hsecond
      rw [decide_eq_true_iff] at *
      exact String.le_trans hfirst hsecond
    · intro first second
      rw [Bool.or_eq_true, decide_eq_true_iff, decide_eq_true_iff]
      exact String.le_total first second
  have hne : symbols.mergeSort.Nodup :=
    (List.mergeSort_perm symbols _).nodup_iff.mpr h
  refine (hle.and hne).imp ?_
  rintro first second ⟨hfirst, hdifferent⟩
  exact String.not_le.mp fun hsecond =>
    hdifferent (String.le_antisymm hfirst hsecond)

/-- Two states have an entry if there is a transition between them, and it
gathers the symbols of all such transitions. -/
theorem lookup_joints (transitions : List Transition) :
    (joints transitions).lookup ends =
      if symbolsBetween transitions ends = [] then none
      else some (symbolsBetween transitions ends) := by
  induction transitions using List.reverseRecOn with
  | nil => rfl
  | append_singleton earlier transition ih =>
      rw [joints_append, Registry.lookup_putInto]
      by_cases hends : ends = (transition.source, transition.target)
      · subst hends
        have hgathered : symbolsBetween (earlier ++ [transition])
            (transition.source, transition.target) =
              symbolsBetween earlier (transition.source, transition.target) ++
                [transition.symbol] := by
          simp [symbolsBetween, symbolBetween?]
        rw [if_pos rfl, ih, hgathered, if_neg (List.append_ne_nil_of_right_ne_nil
          _ (List.cons_ne_nil _ _))]
        split
        · next hempty =>
            rw [hempty]
            rfl
        · rfl
      · have hgathered : symbolsBetween (earlier ++ [transition]) ends =
            symbolsBetween earlier ends := by
          simp [symbolsBetween, symbolBetween?, Ne.symm hends]
        rw [if_neg hends, ih, hgathered]

theorem perm_sortedJoints (transitions : List Transition) :
    (sortedJoints transitions).Perm (joints transitions) :=
  List.mergeSort_perm _ _

theorem nodup_sortedJoints (transitions : List Transition) :
    ((sortedJoints transitions).map Prod.fst).Nodup :=
  ((perm_sortedJoints transitions).map Prod.fst).nodup_iff.mpr
    (nodup_joints transitions)

theorem lookup_sortedJoints (transitions : List Transition) :
    (sortedJoints transitions).lookup ends =
      if symbolsBetween transitions ends = [] then none
      else some (symbolsBetween transitions ends) := by
  rw [← lookup_joints]
  ext symbols
  rw [lookup_eq_some_iff (nodup_sortedJoints transitions),
    lookup_eq_some_iff (nodup_joints transitions)]
  exact (perm_sortedJoints transitions).mem_iff

theorem filter_sortedJoints (transitions : List Transition)
    (ends : String × String) :
    ((sortedJoints transitions).filter fun joint => joint.1 = ends) =
      if symbolsBetween transitions ends = [] then []
      else [(ends, symbolsBetween transitions ends)] := by
  rw [filter_eq_of_nodup (nodup_sortedJoints transitions), lookup_sortedJoints]
  split <;> rfl

theorem ends_of_mem_sortedJoints {joint : Joint}
    (h : joint ∈ sortedJoints transitions) :
    ∃ transition ∈ transitions,
      (transition.source, transition.target) = joint.1 := by
  have hlookup := (lookup_eq_some_iff (nodup_sortedJoints transitions)).mpr h
  rw [lookup_sortedJoints] at hlookup
  split at hlookup
  · contradiction
  · next hne =>
      obtain ⟨symbol, hsymbol⟩ := List.exists_mem_of_ne_nil _ hne
      exact ⟨_, mem_symbolsBetween.mp hsymbol, rfl⟩

end Joints

section Edges

variable {known : Registry String} {automaton : Automaton}

theorem edges_run (h : Numbers known automaton automaton.states.toList)
    {found : List Joint} (hfound : ∀ joint ∈ found,
      joint.1.1 ∈ automaton.states ∧ joint.1.2 ∈ automaton.states) :
    (found.mapM edgeFor).run known =
      (found.map automaton.edgeOf, known) := by
  induction found with
  | nil => rfl
  | cons joint found ih =>
      have hrest := ih fun other hother =>
        hfound other (List.mem_cons_of_mem _ hother)
      obtain ⟨hsource, htarget⟩ := hfound joint List.mem_cons_self
      rw [List.mapM_cons, edgeFor, bind_assoc, run_bind_eq (h.idOf hsource),
        bind_assoc, run_bind_eq (h.idOf htarget), pure_bind, run_bind_eq hrest]
      rfl

end Edges

end Diagram

namespace Automaton

theorem ends_mem (automaton : Automaton) {transitions : List Transition}
    (h : ∀ transition ∈ transitions, transition ∈ automaton.transitions) :
    ∀ joint ∈ Diagram.sortedJoints transitions,
      joint.1.1 ∈ automaton.states ∧ joint.1.2 ∈ automaton.states := by
  intro joint hjoint
  obtain ⟨transition, htransition, hends⟩ :=
    Diagram.ends_of_mem_sortedJoints hjoint
  rw [← hends]
  exact ⟨automaton.source_mem _ (h _ htransition),
    automaton.target_mem _ (h _ htransition)⟩

/-- Whatever is met first, ids go by the order of the labels. -/
theorem diagramOf_eq (automaton : Automaton) {transitions : List Transition}
    (h : ∀ transition ∈ transitions, transition ∈ automaton.transitions) :
    automaton.diagramOf transitions =
      { title := automaton.kindName
        nodes := automaton.states.toList.map automaton.nodeOf
        start := automaton.nodeId automaton.start
        edges := (Diagram.sortedJoints transitions).map automaton.edgeOf } := by
  have hnone : Diagram.Numbers ∅ automaton [] := rfl
  obtain ⟨known, hnodes, hknown⟩ :=
    Diagram.nodes_run hnone (List.nil_append automaton.states.toList).symm
  have hedges := Diagram.edges_run hknown (automaton.ends_mem h)
  rw [diagramOf, drawing, run_bind_eq hnodes,
    run_bind_eq (hknown.idOf automaton.start_mem), run_bind_eq hedges]
  rfl

end Automaton

end RightLinear
