import RightLinear.Automaton.Subset
import RightLinear.Proofs.Automaton.Path

/-! The exploration finds every set of states that a word leads to, once each,
and nothing else.  One invariant relates the finished sets, the pending sets and
the words; it is kept by every step and says all of this once nothing is
pending. -/

namespace RightLinear.Automaton

/-- The states of `subset` are those that the paths spelling one word over the
alphabet end in, and there is at least one. -/
structure IsReachable (automaton : Automaton) (subset : SortedSet String) :
    Prop where
  nonempty : ∃ state, state ∈ subset
  word : ∃ word : List String,
    (∀ symbol ∈ word, symbol ∈ automaton.alphabet) ∧
      ∀ state, state ∈ subset ↔ automaton.Path automaton.start word state

variable {automaton : Automaton} {subset next : SortedSet String}

theorem isReachable_iff :
    automaton.IsReachable subset ↔
      subset.isEmpty = false ∧ ∃ word : List String,
        (∀ symbol ∈ word, symbol ∈ automaton.alphabet) ∧
          automaton.run (SortedSet.singleton automaton.start) word = subset := by
  rw [SortedSet.isEmpty_eq_false_iff]
  constructor
  · intro hreachable
    obtain ⟨hnonempty, word, hword, hmem⟩ := hreachable
    refine ⟨hnonempty, word, hword, ?_⟩
    ext state
    rw [mem_run_start, hmem]
  · intro hrun
    obtain ⟨hnonempty, word, hword, rfl⟩ := hrun
    exact ⟨hnonempty, word, hword, fun state => mem_run_start⟩

theorem isReachable_start :
    automaton.IsReachable (SortedSet.singleton automaton.start) :=
  isReachable_iff.mpr ⟨rfl, [], by simp, rfl⟩

theorem IsReachable.successor {symbol : String}
    (hreachable : automaton.IsReachable subset)
    (hsuccessor : automaton.IsSuccessor subset symbol next) :
    automaton.IsReachable next := by
  have hsymbol := hsuccessor.symbol_mem
  obtain ⟨_, word, hword, hrun⟩ := isReachable_iff.mp hreachable
  obtain ⟨hnext, hstep⟩ := isSuccessor_iff.mp hsuccessor
  refine isReachable_iff.mpr ⟨hnext, word ++ [symbol], ?_, ?_⟩
  · intro other hother
    rcases List.mem_append.mp hother with hearlier | hlast
    · exact hword other hearlier
    · rw [List.mem_singleton.mp hlast]
      exact hsymbol
  · rw [run_concat, hrun, hstep]

private theorem run_induction {motive : SortedSet String → Prop}
    (hsuccessor : ∀ {subset symbol next}, automaton.IsReachable subset →
      automaton.IsSuccessor subset symbol next → motive subset → motive next)
    (word : List String) {current : SortedSet String}
    (hreachable : automaton.IsReachable current) (hcurrent : motive current)
    (hnonempty : ∃ state, state ∈ automaton.run current word) :
    motive (automaton.run current word) := by
  induction word generalizing current with
  | nil => exact hcurrent
  | cons symbol word ih =>
      have hstep := isSuccessor_step hnonempty
      exact ih (hreachable.successor hstep)
        (hsuccessor hreachable hstep hcurrent) hnonempty

/-- What holds of the start and is kept by successors holds of every set that a
word leads to. -/
theorem IsReachable.induction {motive : SortedSet String → Prop}
    (hstart : motive (SortedSet.singleton automaton.start))
    (hsuccessor : ∀ {subset symbol next}, automaton.IsReachable subset →
      automaton.IsSuccessor subset symbol next → motive subset → motive next)
    (hreachable : automaton.IsReachable subset) : motive subset := by
  obtain ⟨_, word, _, hrun⟩ := isReachable_iff.mp hreachable
  have hnonempty := hreachable.nonempty
  rw [← hrun] at hnonempty ⊢
  exact run_induction hsuccessor word isReachable_start hstart hnonempty

theorem IsReachable.run {word : List String}
    (hreachable : automaton.IsReachable subset)
    (hnonempty : ∃ state, state ∈ automaton.run subset word) :
    automaton.IsReachable (automaton.run subset word) :=
  run_induction (fun _ hsuccessor hsubset => hsubset.successor hsuccessor)
    word hreachable hreachable hnonempty

/-! Which sets are done, which are pending, and what is known of them. -/

structure Explored (automaton : Automaton)
    (done pending : List (SortedSet String)) : Prop where
  nodup : (done ++ pending).Nodup
  start_mem : SortedSet.singleton automaton.start ∈ done ++ pending
  reachable : ∀ subset ∈ done ++ pending, automaton.IsReachable subset
  closed : ∀ subset ∈ done, ∀ symbol next,
    automaton.IsSuccessor subset symbol next → next ∈ done ++ pending

theorem nodup_eraseDups {α : Type} [BEq α] [LawfulBEq α] :
    (list : List α) → list.eraseDups.Nodup
  | [] => by simp
  | head :: tail => by
      have hshorter : (tail.filter fun other => !other == head).length <
          (head :: tail).length :=
        Nat.lt_succ_of_le (List.length_filter_le _ tail)
      rw [List.eraseDups_cons, List.nodup_cons]
      refine ⟨?_, nodup_eraseDups _⟩
      simp
termination_by list => list.length
decreasing_by exact hshorter

theorem Explored.start (automaton : Automaton) :
    automaton.Explored [] [SortedSet.singleton automaton.start] where
  nodup := by simp
  start_mem := by simp
  reachable := by
    intro subset hsubset
    rw [List.nil_append, List.mem_singleton] at hsubset
    rw [hsubset]
    exact isReachable_start
  closed := by simp

section Step

variable {table : automaton.Table} {done pending seen : List (SortedSet String)}
  {current : SortedSet String}

theorem Table.mem_newSuccessors_iff :
    next ∈ table.newSuccessors seen current ↔
      (∃ symbol, automaton.IsSuccessor current symbol next) ∧ next ∉ seen := by
  rw [mem_newSuccessors, table.step_eq]
  constructor
  · intro hnew
    obtain ⟨⟨symbol, _, hstep⟩, hnonempty, hfresh⟩ := hnew
    exact ⟨⟨symbol, isSuccessor_iff.mpr ⟨hnonempty, hstep⟩⟩, hfresh⟩
  · intro hnew
    obtain ⟨⟨symbol, hsuccessor⟩, hfresh⟩ := hnew
    obtain ⟨hnonempty, hstep⟩ := isSuccessor_iff.mp hsuccessor
    exact ⟨⟨symbol, hsuccessor.symbol_mem, hstep⟩, hnonempty, hfresh⟩

theorem Explored.step (table : automaton.Table)
    (h : automaton.Explored done (current :: pending)) :
    automaton.Explored (done ++ [current]) (pending ++
      table.newSuccessors (done ++ current :: pending) current) := by
  have hseen : done ++ [current] ++ (pending ++
      table.newSuccessors (done ++ current :: pending) current) =
        (done ++ current :: pending) ++
          table.newSuccessors (done ++ current :: pending) current := by
    simp
  constructor
  · rw [hseen, List.nodup_append]
    refine ⟨h.nodup, nodup_eraseDups _, ?_⟩
    intro old hold new hnew heq
    subst heq
    exact (Table.mem_newSuccessors_iff.mp hnew).2 hold
  · rw [hseen]
    exact List.mem_append_left _ h.start_mem
  · rw [hseen]
    intro subset hsubset
    rcases List.mem_append.mp hsubset with hold | hnew
    · exact h.reachable subset hold
    · obtain ⟨⟨symbol, hsuccessor⟩, _⟩ := Table.mem_newSuccessors_iff.mp hnew
      have hcurrent : automaton.IsReachable current :=
        h.reachable current (by simp)
      exact hcurrent.successor hsuccessor
  · rw [hseen]
    intro subset hsubset symbol next hsuccessor
    rcases List.mem_append.mp hsubset with hdone | hcurrent
    · exact List.mem_append_left _ (h.closed subset hdone symbol next hsuccessor)
    · rw [List.mem_singleton] at hcurrent
      subst hcurrent
      by_cases hold : next ∈ done ++ subset :: pending
      · exact List.mem_append_left _ hold
      · exact List.mem_append_right _
          (Table.mem_newSuccessors_iff.mpr ⟨⟨symbol, hsuccessor⟩, hold⟩)

theorem Explored.explore (table : automaton.Table)
    (h : automaton.Explored done pending) :
    automaton.Explored (table.explore done pending) [] := by
  induction done, pending using Table.explore.induct table with
  | case1 done =>
      rw [Table.explore]
      exact h
  | case2 done current pending ih =>
      rw [Table.explore]
      exact ih (h.step table)

end Step

theorem explored_reachableSubsets (automaton : Automaton) :
    automaton.Explored automaton.reachableSubsets [] :=
  (Explored.start automaton).explore automaton.table

theorem nodup_reachableSubsets (automaton : Automaton) :
    automaton.reachableSubsets.Nodup := by
  simpa using (explored_reachableSubsets automaton).nodup

theorem mem_reachableSubsets :
    subset ∈ automaton.reachableSubsets ↔ automaton.IsReachable subset := by
  have hexplored := explored_reachableSubsets automaton
  constructor
  · intro hmem
    exact hexplored.reachable subset (by simpa using hmem)
  · intro hreachable
    apply hreachable.induction
      (motive := fun subset => subset ∈ automaton.reachableSubsets)
    · simpa using hexplored.start_mem
    · intro subset symbol next _ hsuccessor hmem
      simpa using hexplored.closed subset hmem symbol next hsuccessor

end RightLinear.Automaton
