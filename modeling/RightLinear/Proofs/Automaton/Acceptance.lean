import RightLinear.Proofs.Automaton.Path

/-! Acceptance is decided by paths alone.  Rejecting a word early, at a symbol
outside the alphabet or where no state is left, saves work: with either check
left out, or both, the answer is the same, however the transitions are grouped. -/

namespace RightLinear.Automaton

variable {automaton : Automaton} {table : automaton.Table}
  {current : SortedSet String} {word : List String}

namespace Table

/-- Follows the sets of states that a word leads to, and rejects early only
where it is told to. -/
def acceptsFromWith (table : automaton.Table)
    (rejectsUnknown rejectsStuck : Bool) :
    SortedSet String → List String → Bool
  | current, [] => automaton.meetsAccepting current
  | current, symbol :: word =>
      if rejectsUnknown ∧ symbol ∉ automaton.alphabet then false
      else if rejectsStuck ∧ (table.step current symbol).isEmpty then false
      else table.acceptsFromWith rejectsUnknown rejectsStuck
        (table.step current symbol) word

theorem acceptsFrom_eq_false
    (h : ¬ ∃ state, state ∈ automaton.run current word) :
    table.acceptsFrom current word = false := by
  rw [Bool.eq_false_iff, Ne, acceptsFrom_iff]
  intro haccepted
  obtain ⟨state, hstate, _⟩ := haccepted
  exact h ⟨state, hstate⟩

/-- Where one of the checks would reject, no path spells the rest of the word, so
going on rejects as well. -/
theorem acceptsFromWith_eq (rejectsUnknown rejectsStuck : Bool) :
    table.acceptsFromWith rejectsUnknown rejectsStuck current word =
      table.acceptsFrom current word := by
  induction word generalizing current with
  | nil => rfl
  | cons symbol word ih =>
      by_cases hsuccessor : automaton.IsSuccessor current symbol
          (automaton.step current symbol)
      · have hknown := not_not_intro hsuccessor.symbol_mem
        have hnonempty := Bool.eq_false_iff.mp (isSuccessor_iff.mp hsuccessor).1
        rw [← table.step_eq] at hnonempty
        rw [acceptsFromWith, if_neg (fun h => hknown h.2),
          if_neg (fun h => hnonempty h.2), ih, acceptsFrom, if_neg hknown,
          if_neg hnonempty]
      · have hnone : ¬ ∃ state, state ∈ automaton.run current (symbol :: word) :=
          fun h => hsuccessor (isSuccessor_step h)
        have hrest : table.acceptsFrom (table.step current symbol) word = false :=
          acceptsFrom_eq_false (table.step_eq ▸ hnone)
        rw [acceptsFromWith, ih, hrest, acceptsFrom_eq_false hnone, ite_self,
          ite_self]

theorem acceptsFrom_eq (table other : automaton.Table) :
    table.acceptsFrom current word = other.acceptsFrom current word := by
  rw [Bool.eq_iff_iff, acceptsFrom_iff, acceptsFrom_iff]

end Table

/-- A word is accepted exactly if a path from the start to an accepting state
spells it.  Neither of the early rejections plays a part in it, nor does the way
in which the transitions are grouped. -/
theorem accepts_decides_paths (automaton : Automaton) (word : List String) :
    (automaton.accepts word = true ↔
        ∃ target ∈ automaton.accepting,
          automaton.Path automaton.start word target) ∧
      ∀ (table : automaton.Table) (rejectsUnknown rejectsStuck : Bool),
        table.acceptsFromWith rejectsUnknown rejectsStuck
          (SortedSet.singleton automaton.start) word = automaton.accepts word := by
  refine ⟨accepts_iff, fun table rejectsUnknown rejectsStuck => ?_⟩
  rw [Table.acceptsFromWith_eq, accepts, table.acceptsFrom_eq]

end RightLinear.Automaton
