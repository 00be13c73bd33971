import RightLinear.Automaton.Basic

/-! The transitions of an automaton grouped for looking up: one entry for each
source and symbol that some transition has, with all its targets. -/

namespace RightLinear

structure TransitionTable where
  entries : List ((String × String) × SortedSet String)
  nodup : (entries.map Prod.fst).Nodup

namespace TransitionTable

def empty : TransitionTable := ⟨[], List.nodup_nil⟩

def targets (table : TransitionTable) (source symbol : String) :
    SortedSet String :=
  (table.entries.lookup (source, symbol)).getD ∅

def record (table : TransitionTable) (transition : Transition) :
    TransitionTable :=
  let targets := table.targets transition.source transition.symbol
  ⟨Registry.putInto (transition.source, transition.symbol)
      (targets.insert transition.target) table.entries,
    Registry.nodup_putInto table.nodup⟩

def ofTransitions (transitions : List Transition) : TransitionTable :=
  transitions.foldl record empty

variable {table : TransitionTable} {source symbol target : String}
  {transition : Transition} {transitions : List Transition}

theorem mem_targets_record :
    target ∈ (table.record transition).targets source symbol ↔
      target ∈ table.targets source symbol ∨
        ⟨source, symbol, target⟩ = transition := by
  rw [targets, record, Registry.lookup_putInto]
  split
  · next hkey =>
      obtain ⟨rfl, rfl⟩ := Prod.mk.inj hkey
      rw [Option.getD_some, SortedSet.mem_insert, or_comm, Transition.mk.injEq]
      simp only [true_and]
  · next hkey =>
      have hother : ⟨source, symbol, target⟩ ≠ transition := by
        rintro rfl
        exact hkey rfl
      rw [or_iff_left hother, targets]

theorem mem_targets_foldl :
    target ∈ (transitions.foldl record table).targets source symbol ↔
      target ∈ table.targets source symbol ∨
        ⟨source, symbol, target⟩ ∈ transitions := by
  induction transitions generalizing table with
  | nil => simp
  | cons transition transitions ih =>
      rw [List.foldl_cons, ih, mem_targets_record, List.mem_cons, or_assoc]

theorem mem_targets_ofTransitions :
    target ∈ (ofTransitions transitions).targets source symbol ↔
      ⟨source, symbol, target⟩ ∈ transitions := by
  rw [ofTransitions, mem_targets_foldl]
  exact or_iff_right (SortedSet.not_mem_empty target)

theorem targets_eq {targets : SortedSet String}
    (h : ((source, symbol), targets) ∈ table.entries) :
    table.targets source symbol = targets := by
  rw [TransitionTable.targets, (lookup_eq_some_iff table.nodup).mpr h,
    Option.getD_some]

theorem exists_mem_entries (h : target ∈ table.targets source symbol) :
    ∃ targets, ((source, symbol), targets) ∈ table.entries ∧
      target ∈ targets := by
  rw [targets] at h
  cases hlookup : table.entries.lookup (source, symbol) with
  | none =>
      rw [hlookup] at h
      exact absurd h (SortedSet.not_mem_empty target)
  | some targets =>
      rw [hlookup] at h
      exact ⟨targets, (lookup_eq_some_iff table.nodup).mp hlookup, h⟩

end TransitionTable

namespace Automaton

/-- A table of the automaton's own transitions. -/
structure Table (automaton : Automaton) extends TransitionTable where
  mem_targets : ∀ {source symbol target : String},
    target ∈ toTransitionTable.targets source symbol ↔
      ⟨source, symbol, target⟩ ∈ automaton.transitions

def table (automaton : Automaton) : automaton.Table where
  toTransitionTable := .ofTransitions automaton.transitions.toList
  mem_targets := TransitionTable.mem_targets_ofTransitions

end Automaton

end RightLinear
