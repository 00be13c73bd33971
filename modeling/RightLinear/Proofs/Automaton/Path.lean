import RightLinear.Automaton.Run

/-! Paths of transitions.  The set of states that reading a word leads to holds
the ends of the paths that spell it, so a word is accepted exactly when such a
path from the start ends in an accepting state. -/

namespace RightLinear.Automaton

inductive Path (automaton : Automaton) : String → List String → String → Prop
  | nil (state : String) : Path automaton state [] state
  | cons {source symbol middle target : String} {word : List String}
      (first : ⟨source, symbol, middle⟩ ∈ automaton.transitions)
      (rest : Path automaton middle word target) :
      Path automaton source (symbol :: word) target

variable {automaton : Automaton}

theorem path_nil_iff {source target : String} :
    automaton.Path source [] target ↔ source = target := by
  constructor
  · intro h
    cases h
    rfl
  · intro heq
    rw [heq]
    exact .nil target

theorem path_cons_iff {source symbol target : String} {word : List String} :
    automaton.Path source (symbol :: word) target ↔
      ∃ middle, ⟨source, symbol, middle⟩ ∈ automaton.transitions ∧
        automaton.Path middle word target := by
  constructor
  · intro h
    cases h with
    | cons first rest => exact ⟨_, first, rest⟩
  · intro h
    obtain ⟨_, first, rest⟩ := h
    exact .cons first rest

/-- The states that `symbol` leads to from those of `current`. -/
def step (automaton : Automaton) (current : SortedSet String)
    (symbol : String) : SortedSet String :=
  automaton.table.step current symbol

@[simp] theorem mem_step {current : SortedSet String} {symbol target : String} :
    target ∈ automaton.step current symbol ↔
      ∃ source ∈ current, ⟨source, symbol, target⟩ ∈ automaton.transitions :=
  Table.mem_step

/-- Whichever way the transitions are grouped, they lead to the same states. -/
theorem Table.step_eq (table : automaton.Table) : table.step = automaton.step := by
  funext current symbol
  ext target
  rw [Table.mem_step, Automaton.mem_step]

/-- The set of states that `word` leads to from the states of `current`. -/
def run (automaton : Automaton) (current : SortedSet String)
    (word : List String) : SortedSet String :=
  word.foldl automaton.step current

@[simp] theorem run_nil (automaton : Automaton) (current : SortedSet String) :
    automaton.run current [] = current := rfl

@[simp] theorem run_cons (automaton : Automaton) (current : SortedSet String)
    (symbol : String) (word : List String) :
    automaton.run current (symbol :: word) =
      automaton.run (automaton.step current symbol) word := rfl

theorem run_concat (automaton : Automaton) (current : SortedSet String)
    (word : List String) (symbol : String) :
    automaton.run current (word ++ [symbol]) =
      automaton.step (automaton.run current word) symbol := by
  simp [run]

theorem mem_run {current : SortedSet String} {word : List String}
    {target : String} :
    target ∈ automaton.run current word ↔
      ∃ source ∈ current, automaton.Path source word target := by
  induction word generalizing current with
  | nil => simp [path_nil_iff]
  | cons symbol word ih =>
      rw [run_cons, ih]
      simp only [mem_step, path_cons_iff]
      constructor
      · intro hstep
        obtain ⟨middle, ⟨source, hsource, first⟩, rest⟩ := hstep
        exact ⟨source, hsource, middle, first, rest⟩
      · intro hpath
        obtain ⟨source, hsource, middle, first, rest⟩ := hpath
        exact ⟨middle, ⟨source, hsource, first⟩, rest⟩

theorem mem_run_start {word : List String} {target : String} :
    target ∈ automaton.run (SortedSet.singleton automaton.start) word ↔
      automaton.Path automaton.start word target := by
  simp [mem_run]

/-- `next` collects what `symbol` leads to from the states of `subset`, and is
not empty. -/
structure IsSuccessor (automaton : Automaton) (subset : SortedSet String)
    (symbol : String) (next : SortedSet String) : Prop where
  nonempty : ∃ state, state ∈ next
  mem_iff : ∀ target, target ∈ next ↔
    ∃ source ∈ subset, ⟨source, symbol, target⟩ ∈ automaton.transitions

theorem isSuccessor_iff {subset next : SortedSet String} {symbol : String} :
    automaton.IsSuccessor subset symbol next ↔
      next.isEmpty = false ∧ automaton.step subset symbol = next := by
  rw [SortedSet.isEmpty_eq_false_iff]
  constructor
  · intro hsuccessor
    refine ⟨hsuccessor.nonempty, ?_⟩
    ext target
    rw [mem_step, hsuccessor.mem_iff]
  · intro hstep
    obtain ⟨hnonempty, rfl⟩ := hstep
    exact ⟨hnonempty, fun target => mem_step⟩

theorem IsSuccessor.symbol_mem {subset next : SortedSet String}
    {symbol : String} (h : automaton.IsSuccessor subset symbol next) :
    symbol ∈ automaton.alphabet := by
  obtain ⟨target, htarget⟩ := h.nonempty
  obtain ⟨source, _, htransition⟩ := (h.mem_iff target).mp htarget
  exact automaton.symbol_mem _ htransition

/-- A word that leads somewhere does so by way of its first symbol. -/
theorem isSuccessor_step {current : SortedSet String} {symbol : String}
    {word : List String}
    (h : ∃ state, state ∈ automaton.run current (symbol :: word)) :
    automaton.IsSuccessor current symbol (automaton.step current symbol) := by
  obtain ⟨state, hstate⟩ := h
  rw [run_cons] at hstate
  obtain ⟨middle, hmiddle, _⟩ := mem_run.mp hstate
  exact ⟨⟨middle, hmiddle⟩, fun target => mem_step⟩

/-- Rejecting at once, where a symbol is unknown or leads nowhere, gives the
answer that the end of the word would give: no path spells the word. -/
theorem Table.acceptsFrom_iff {table : automaton.Table}
    {current : SortedSet String} {word : List String} :
    table.acceptsFrom current word = true ↔
      ∃ state ∈ automaton.run current word, state ∈ automaton.accepting := by
  induction word generalizing current with
  | nil => simp [acceptsFrom]
  | cons symbol word ih =>
      rw [acceptsFrom, table.step_eq]
      by_cases hsuccessor : automaton.IsSuccessor current symbol
          (automaton.step current symbol)
      · rw [if_neg (not_not_intro hsuccessor.symbol_mem),
          (isSuccessor_iff.mp hsuccessor).1]
        exact ih
      · have hnone : ¬ ∃ state ∈ automaton.run current (symbol :: word),
            state ∈ automaton.accepting := by
          intro h
          obtain ⟨state, hstate, _⟩ := h
          exact hsuccessor (isSuccessor_step ⟨state, hstate⟩)
        have hempty : (automaton.step current symbol).isEmpty = true := by
          cases h : (automaton.step current symbol).isEmpty with
          | true => rfl
          | false => exact absurd (isSuccessor_iff.mpr ⟨h, rfl⟩) hsuccessor
        rw [if_pos hempty, ite_self]
        exact iff_of_false Bool.false_ne_true hnone

theorem accepts_iff_run {word : List String} :
    automaton.accepts word = true ↔
      ∃ state ∈ automaton.run (SortedSet.singleton automaton.start) word,
        state ∈ automaton.accepting :=
  Table.acceptsFrom_iff

theorem accepts_iff {word : List String} :
    automaton.accepts word = true ↔
      ∃ target ∈ automaton.accepting,
        automaton.Path automaton.start word target := by
  rw [accepts_iff_run]
  constructor
  · intro h
    obtain ⟨target, htarget, haccepting⟩ := h
    exact ⟨target, haccepting, mem_run_start.mp htarget⟩
  · intro h
    obtain ⟨target, haccepting, hpath⟩ := h
    exact ⟨target, mem_run_start.mpr hpath, haccepting⟩

end RightLinear.Automaton
