import RightLinear.Automaton.Table

/-! Reading words: the set of states that a word can lead to is followed
symbol by symbol, whether or not the automaton is deterministic. -/

namespace RightLinear.Automaton

def Table.step {automaton : Automaton} (table : automaton.Table)
    (current : SortedSet String) (symbol : String) : SortedSet String :=
  SortedSet.ofList
    (current.toList.flatMap fun source => (table.targets source symbol).toList)

def meetsAccepting (automaton : Automaton) (current : SortedSet String) :
    Bool :=
  current.toList.any fun state => decide (state ∈ automaton.accepting)

/-- A symbol outside the alphabet, and a symbol that leads nowhere, reject the
word at once. -/
def Table.acceptsFrom {automaton : Automaton} (table : automaton.Table) :
    SortedSet String → List String → Bool
  | current, [] => automaton.meetsAccepting current
  | current, symbol :: word =>
      if symbol ∉ automaton.alphabet then false
      else if (table.step current symbol).isEmpty then false
      else table.acceptsFrom (table.step current symbol) word

def accepts (automaton : Automaton) (word : List String) : Bool :=
  automaton.table.acceptsFrom (SortedSet.singleton automaton.start) word

def isDeterministic (automaton : Automaton) : Bool :=
  automaton.table.entries.all fun (_, targets) => targets.size ≤ 1

/-- The symbols of a word that is written without separators. -/
def symbolsOf (word : String) : List String :=
  word.toList.map String.singleton

@[simp] theorem length_symbolsOf (word : String) :
    (symbolsOf word).length = word.length := by
  rw [symbolsOf, List.length_map, String.length_toList]

theorem symbolsOf_join {word : List String}
    (hsymbols : ∀ symbol ∈ word, symbol.length = 1) :
    symbolsOf (String.join word) = word := by
  induction word with
  | nil => rfl
  | cons symbol word ih =>
      have hlength : symbol.toList.length = 1 := by
        rw [String.length_toList]
        exact hsymbols symbol List.mem_cons_self
      obtain ⟨character, hcharacter⟩ := List.length_eq_one_iff.mp hlength
      have hsymbol : String.singleton character = symbol := by
        apply String.toList_injective
        rw [hcharacter, String.toList_singleton]
      have hrest := ih fun other hother =>
        hsymbols other (List.mem_cons_of_mem _ hother)
      calc symbolsOf (String.join (symbol :: word))
          = symbolsOf symbol ++ symbolsOf (String.join word) := by
            simp only [symbolsOf, String.join_cons, String.toList_append,
              List.map_append]
        _ = symbol :: word := by
            rw [hrest, symbolsOf, hcharacter, List.map_singleton, hsymbol]
            rfl

@[simp] theorem Table.mem_step {automaton : Automaton} {table : automaton.Table}
    {current : SortedSet String} {symbol target : String} :
    target ∈ table.step current symbol ↔
      ∃ source ∈ current, ⟨source, symbol, target⟩ ∈ automaton.transitions := by
  simp [step, table.mem_targets]

@[simp] theorem meetsAccepting_iff {automaton : Automaton}
    {current : SortedSet String} :
    automaton.meetsAccepting current = true ↔
      ∃ state ∈ current, state ∈ automaton.accepting := by
  simp [meetsAccepting]

theorem Table.step_subset_states {automaton : Automaton}
    (table : automaton.Table) (current : SortedSet String) (symbol : String) :
    ∀ target ∈ table.step current symbol, target ∈ automaton.states := by
  intro target htarget
  obtain ⟨source, _, hmem⟩ := mem_step.mp htarget
  exact automaton.target_mem _ hmem

end RightLinear.Automaton
