import RightLinear.Automaton.Name
import RightLinear.Automaton.Run
import RightLinear.Selection

/-! The deterministic automaton whose states are the sets of states that words
lead to.  Sets are discovered breadth first, symbols in order, and each is
named when it is discovered; two sets that would share a name are told apart
by primes. -/

namespace RightLinear

namespace Automaton

/-- The non-empty sets that one symbol leads to from `current`, in the order
of the symbols, less those already seen. -/
def Table.newSuccessors {automaton : Automaton} (table : automaton.Table)
    (seen : List (SortedSet String)) (current : SortedSet String) :
    List (SortedSet String) :=
  ((automaton.alphabet.toList.map (table.step current)).filter
    fun next => !next.isEmpty && !seen.contains next).eraseDups

/-- How many sets of states are not yet seen. -/
private def unseen (automaton : Automaton) (seen : List (SortedSet String)) :
    Nat :=
  (selections automaton.states.toList).countP fun chosen =>
    !(seen.map SortedSet.toList).contains chosen

theorem Table.mem_newSuccessors {automaton : Automaton}
    {table : automaton.Table} {seen : List (SortedSet String)}
    {current next : SortedSet String} :
    next ∈ table.newSuccessors seen current ↔
      (∃ symbol ∈ automaton.alphabet, table.step current symbol = next) ∧
        next.isEmpty = false ∧ next ∉ seen := by
  simp [newSuccessors]

private theorem unseen_lt {automaton : Automaton} {table : automaton.Table}
    {seen : List (SortedSet String)} {current : SortedSet String}
    (hne : table.newSuccessors seen current ≠ []) :
    automaton.unseen (seen ++ table.newSuccessors seen current) <
      automaton.unseen seen := by
  obtain ⟨next, hnext⟩ := List.exists_mem_of_ne_nil _ hne
  obtain ⟨⟨symbol, _, hstep⟩, _, hfresh⟩ := Table.mem_newSuccessors.mp hnext
  have hselection : next.toList ∈ selections automaton.states.toList := by
    refine mem_selections (sublist_of_sorted next.sorted
      automaton.states.sorted ?_)
    intro state hstate
    exact table.step_subset_states current symbol state
      (by rw [hstep]; exact hstate)
  have hold : next.toList ∉ seen.map SortedSet.toList := by
    intro hmem
    obtain ⟨other, hother, heq⟩ := List.mem_map.mp hmem
    exact hfresh (SortedSet.toList_injective heq ▸ hother)
  have hnew : next.toList ∈
      (seen ++ table.newSuccessors seen current).map SortedSet.toList :=
    List.mem_map_of_mem (List.mem_append_right _ hnext)
  refine countP_lt_countP ?_ hselection ?_ ?_
  · intro chosen _
    simp +contextual
  · simpa using hold
  · simp only [List.contains_iff_mem.mpr hnew, Bool.not_true]

/-- `done` and `pending` together are the sets seen so far, in the order of
their discovery. -/
def Table.explore {automaton : Automaton} (table : automaton.Table)
    (done : List (SortedSet String)) :
    List (SortedSet String) → List (SortedSet String)
  | [] => done
  | current :: pending =>
      table.explore (done ++ [current])
        (pending ++ table.newSuccessors (done ++ current :: pending) current)
termination_by pending =>
  (automaton.unseen (done ++ pending), pending.length)
decreasing_by
  have hseen : done ++ [current] ++ (pending ++
      table.newSuccessors (done ++ current :: pending) current) =
        (done ++ current :: pending) ++
          table.newSuccessors (done ++ current :: pending) current := by
    simp
  rw [hseen]
  by_cases hne :
      table.newSuccessors (done ++ current :: pending) current = []
  · simp only [hne, List.append_nil]
    exact Prod.Lex.right _ (by simp)
  · exact Prod.Lex.left _ _ (unseen_lt hne)

/-- The sets of states that words over the alphabet lead to, less the empty
set, in the order of their discovery. -/
def reachableSubsets (automaton : Automaton) : List (SortedSet String) :=
  automaton.table.explore [] [SortedSet.singleton automaton.start]

/-- Gives each set the first free name in turn. -/
def nameSubsets (subsets : List (SortedSet String)) :
    List (SortedSet String × String) :=
  subsets.foldl
    (fun named subset =>
      named ++
        [(subset, freshName (subsetName subset.toList) (named.map Prod.snd))])
    []

/-- Only the empty set has no name, and nothing leads to it. -/
def Table.subsetTransitions {automaton : Automaton} (table : automaton.Table)
    (named : List (SortedSet String × String)) : List Transition :=
  named.flatMap fun (subset, name) =>
    automaton.alphabet.toList.filterMap fun symbol =>
      (named.lookup (table.step subset symbol)).map fun next =>
        ⟨name, symbol, next⟩

def subsetDescription (automaton : Automaton) : Description :=
  let named := nameSubsets automaton.reachableSubsets
  { states := named.map Prod.snd
    alphabet := automaton.alphabet.toList
    transitions := (automaton.table.subsetTransitions named).map Transition.row
    start := named.lookup (SortedSet.singleton automaton.start)
    accepting :=
      (named.filter fun (subset, _) => automaton.meetsAccepting subset).map
        Prod.snd }

def determinize (automaton : Automaton) : Except Fault Automaton :=
  ofDescription automaton.subsetDescription

end Automaton

end RightLinear
