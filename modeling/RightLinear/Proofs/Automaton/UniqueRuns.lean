import RightLinear.Proofs.Automaton.Determinism
import RightLinear.Proofs.Automaton.Path

/-! Runs as lists of transitions, so that two ways through an automaton between
the same states are two runs.  An automaton is deterministic exactly if no word
has two runs from one state, and then at most one state is left to follow
wherever a word is read. -/

namespace RightLinear.Automaton

/-- Transitions of the automaton that spell a word, each from where the one
before it led. -/
inductive Run (automaton : Automaton) :
    String → List String → List Transition → Prop
  | nil (source : String) : Run automaton source [] []
  | cons {source symbol middle : String} {word : List String}
      {later : List Transition}
      (first : ⟨source, symbol, middle⟩ ∈ automaton.transitions)
      (rest : Run automaton middle word later) :
      Run automaton source (symbol :: word) (⟨source, symbol, middle⟩ :: later)

/-- Where a run from `source` ends. -/
def finish : String → List Transition → String
  | source, [] => source
  | _, transition :: later => finish transition.target later

variable {automaton : Automaton} {source : String} {word : List String}

/-- A path is what is left of a run when the states between are forgotten. -/
theorem path_iff_exists_run {target : String} :
    automaton.Path source word target ↔
      ∃ steps, automaton.Run source word steps ∧ finish source steps = target := by
  constructor
  · intro h
    induction h with
    | nil state => exact ⟨[], .nil state, rfl⟩
    | cons first _ ih =>
        obtain ⟨later, hrun, hfinish⟩ := ih
        exact ⟨_ :: later, .cons first hrun, hfinish⟩
  · intro h
    obtain ⟨steps, hrun, rfl⟩ := h
    induction hrun with
    | nil source => exact .nil source
    | cons first _ ih => exact .cons first ih

theorem Run.eq_of_isDeterministic {first second : List Transition}
    (hdeterministic : automaton.isDeterministic = true)
    (hfirst : automaton.Run source word first)
    (hsecond : automaton.Run source word second) : first = second := by
  induction hfirst generalizing second with
  | nil source =>
      cases hsecond
      rfl
  | cons hstep _ ih =>
      cases hsecond with
      | cons hother hlater =>
          obtain rfl := isDeterministic_iff.mp hdeterministic hstep hother
          rw [ih hlater]

theorem isDeterministic_of_unique_runs
    (h : ∀ source ∈ automaton.states, ∀ word first second,
      automaton.Run source word first → automaton.Run source word second →
        first = second) : automaton.isDeterministic = true := by
  rw [isDeterministic_iff]
  intro source symbol first second hfirst hsecond
  have heq := h source (automaton.source_mem _ hfirst) [symbol] _ _
    (.cons hfirst (.nil first)) (.cons hsecond (.nil second))
  cases heq
  rfl

theorem size_run_le_one (hdeterministic : automaton.isDeterministic = true)
    (word : List String) :
    (automaton.run (SortedSet.singleton automaton.start) word).size ≤ 1 := by
  rw [size_le_one_iff]
  intro first hfirst second hsecond
  obtain ⟨steps, hrun, rfl⟩ := path_iff_exists_run.mp (mem_run_start.mp hfirst)
  obtain ⟨others, hother, rfl⟩ :=
    path_iff_exists_run.mp (mem_run_start.mp hsecond)
  rw [hrun.eq_of_isDeterministic hdeterministic hother]

namespace Table

variable {table : automaton.Table} {current : SortedSet String}

/-- The sets of states that are followed one after the other while a word is
decided on, up to where it is rejected. -/
def tracked (table : automaton.Table) :
    SortedSet String → List String → List (SortedSet String)
  | current, [] => [current]
  | current, symbol :: word =>
      current ::
        if symbol ∉ automaton.alphabet then []
        else if (table.step current symbol).isEmpty then
          [table.step current symbol]
        else table.tracked (table.step current symbol) word

/-- The answer is given by the last set, if every symbol was read. -/
theorem acceptsFrom_eq_tracked :
    table.acceptsFrom current word =
      ((table.tracked current word)[word.length]?).any
        automaton.meetsAccepting := by
  induction word generalizing current with
  | nil => rfl
  | cons symbol word ih =>
      rw [acceptsFrom, tracked, List.length_cons, List.getElem?_cons_succ]
      split
      · rfl
      · split
        · next hempty =>
            cases word with
            | nil =>
                have hnone : automaton.meetsAccepting
                    (table.step current symbol) = false := by
                  rw [SortedSet.isEmpty, List.isEmpty_iff] at hempty
                  rw [meetsAccepting, hempty]
                  rfl
                exact hnone.symm
            | cons next word => rfl
        · exact ih

/-- Each set holds the states that the symbols read so far lead to. -/
theorem exists_run_of_mem_tracked {subset : SortedSet String}
    (h : subset ∈ table.tracked current word) :
    ∃ done, done <+: word ∧ automaton.run current done = subset := by
  induction word generalizing current with
  | nil => exact ⟨[], List.prefix_rfl, (List.mem_singleton.mp h).symm⟩
  | cons symbol word ih =>
      rw [tracked] at h
      rcases List.mem_cons.mp h with rfl | hlater
      · exact ⟨[], List.nil_prefix, rfl⟩
      · split at hlater
        · contradiction
        · split at hlater
          · rw [List.mem_singleton] at hlater
            refine ⟨[symbol], List.prefix_append [symbol] word, ?_⟩
            rw [hlater, table.step_eq]
            rfl
          · obtain ⟨done, hprefix, hrun⟩ := ih hlater
            refine ⟨symbol :: done, (List.prefix_cons_inj symbol).mpr hprefix, ?_⟩
            rw [run_cons, ← hrun, table.step_eq]

end Table

/-- An automaton is deterministic exactly if no word has two runs from one
state.  Then at most one state is followed wherever a word is read, however the
transitions are grouped. -/
theorem isDeterministic_iff_unique_runs (automaton : Automaton) :
    (automaton.isDeterministic = true ↔
      ∀ source ∈ automaton.states, ∀ word first second,
        automaton.Run source word first → automaton.Run source word second →
          first = second) ∧
      ∀ table : automaton.Table,
        (table.entries.all fun (_, targets) => targets.size ≤ 1) =
            automaton.isDeterministic ∧
          ∀ word,
            ((table.tracked (.singleton automaton.start) word)[word.length]?).any
                automaton.meetsAccepting = automaton.accepts word ∧
              (automaton.isDeterministic = true →
                ∀ current ∈ table.tracked (.singleton automaton.start) word,
                  current.size ≤ 1) := by
  refine ⟨⟨?_, isDeterministic_of_unique_runs⟩, fun table =>
    ⟨?_, fun word => ⟨?_, ?_⟩⟩⟩
  · intro hdeterministic source _ word first second hfirst hsecond
    exact hfirst.eq_of_isDeterministic hdeterministic hsecond
  · rw [Bool.eq_iff_iff, table.all_size_le_one_iff, isDeterministic_iff]
  · rw [← Table.acceptsFrom_eq_tracked, Bool.eq_iff_iff, Table.acceptsFrom_iff,
      accepts_iff_run]
  · intro hdeterministic current hcurrent
    obtain ⟨done, _, rfl⟩ := Table.exists_run_of_mem_tracked hcurrent
    exact size_run_le_one hdeterministic done

/-- A coin opens the turnstile and a push closes it.  Where it is open already,
no coin is taken. -/
def turnstile : Automaton where
  states := SortedSet.ofList ["locked", "open"]
  alphabet := SortedSet.ofList ["c", "p"]
  transitions := SortedSet.ofList
    [⟨"locked", "c", "open"⟩, ⟨"open", "p", "locked"⟩,
      ⟨"locked", "p", "locked"⟩]
  start := "locked"
  accepting := SortedSet.ofList ["open"]
  length_symbol := by decide +kernel
  start_mem := by decide +kernel
  accepting_mem := by decide +kernel
  source_mem := by decide +kernel
  target_mem := by decide +kernel
  symbol_mem := by decide +kernel

theorem turnstile_unique_runs :
    turnstile.isDeterministic = true ∧
      (∀ source ∈ turnstile.states, ∀ word first second,
        turnstile.Run source word first → turnstile.Run source word second →
          first = second) ∧
        ∀ word, ∀ current ∈
          turnstile.table.tracked (.singleton turnstile.start) word,
            current.size ≤ 1 := by
  have hdeterministic : turnstile.isDeterministic = true := by decide +kernel
  obtain ⟨hruns, htracked⟩ := isDeterministic_iff_unique_runs turnstile
  exact ⟨hdeterministic, hruns.mp hdeterministic,
    fun word => ((htracked turnstile.table).2 word).2 hdeterministic⟩

end RightLinear.Automaton
