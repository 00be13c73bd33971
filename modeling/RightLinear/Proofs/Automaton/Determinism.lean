import Mathlib.Data.List.Nodup
import RightLinear.Automaton.Run

/-! Deterministic automata: from one state, one symbol leads to at most one
state. -/

namespace RightLinear.Automaton

private theorem length_le_one_iff {α : Type} {list : List α}
    (hnodup : list.Nodup) :
    list.length ≤ 1 ↔
      ∀ first ∈ list, ∀ second ∈ list, first = second := by
  match list with
  | [] => simp
  | [element] => simp
  | first :: second :: rest =>
      have hne : first ≠ second := by
        rw [List.nodup_cons] at hnodup
        intro heq
        rw [heq] at hnodup
        exact hnodup.1 List.mem_cons_self
      constructor
      · intro hlength
        simp at hlength
      · intro hall
        exact absurd (hall first (by simp) second (by simp)) hne

theorem size_le_one_iff {set : SortedSet String} :
    set.size ≤ 1 ↔ ∀ first ∈ set, ∀ second ∈ set, first = second :=
  length_le_one_iff set.nodup

variable {automaton : Automaton}

/-- Counting targets entry by entry compares all transitions, however they are
grouped. -/
theorem Table.all_size_le_one_iff (table : automaton.Table) :
    (table.entries.all fun (_, targets) => targets.size ≤ 1) = true ↔
      ∀ {source symbol first second : String},
        ⟨source, symbol, first⟩ ∈ automaton.transitions →
          ⟨source, symbol, second⟩ ∈ automaton.transitions →
            first = second := by
  simp only [List.all_eq_true, decide_eq_true_eq, size_le_one_iff]
  constructor
  · intro hall source symbol first second hfirst hsecond
    obtain ⟨targets, hentry, hmem⟩ :=
      TransitionTable.exists_mem_entries (table.mem_targets.mpr hfirst)
    refine hall _ hentry first hmem second ?_
    rw [← TransitionTable.targets_eq hentry]
    exact table.mem_targets.mpr hsecond
  · intro hall entry hentry first hfirst second hsecond
    obtain ⟨⟨source, symbol⟩, targets⟩ := entry
    rw [← TransitionTable.targets_eq hentry] at hfirst hsecond
    exact hall (table.mem_targets.mp hfirst) (table.mem_targets.mp hsecond)

theorem isDeterministic_iff :
    automaton.isDeterministic = true ↔
      ∀ {source symbol first second : String},
        ⟨source, symbol, first⟩ ∈ automaton.transitions →
          ⟨source, symbol, second⟩ ∈ automaton.transitions →
            first = second :=
  automaton.table.all_size_le_one_iff

end RightLinear.Automaton
