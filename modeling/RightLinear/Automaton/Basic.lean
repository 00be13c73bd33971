import RightLinear.Registry
import RightLinear.SortedSet
import RightLinear.Text.Quoted

/-! Finite automata over named states and one-character symbols.  An automaton
is built from a description, which is checked label by label; the first label
that is not declared, or not a symbol, is the fault that is reported. -/

namespace RightLinear

structure Transition where
  source : String
  symbol : String
  target : String
  deriving DecidableEq

namespace Transition

/-! Transitions are ordered by source, then symbol, then target. -/

def row (transition : Transition) : List String :=
  [transition.source, transition.symbol, transition.target]

def ofRow? : List String → Option Transition
  | [source, symbol, target] => some ⟨source, symbol, target⟩
  | _ => none

@[simp] theorem ofRow?_row (transition : Transition) :
    ofRow? transition.row = some transition := rfl

theorem row_injective {first second : Transition}
    (h : first.row = second.row) : first = second := by
  have hsome := congrArg ofRow? h
  simpa using hsome

theorem row_mem_map_row {transition : Transition}
    {transitions : List Transition} :
    transition.row ∈ transitions.map row ↔ transition ∈ transitions := by
  constructor
  · intro hrow
    obtain ⟨other, hother, heq⟩ := List.mem_map.mp hrow
    rw [← row_injective heq]
    exact hother
  · exact fun hmem => List.mem_map_of_mem hmem

instance : LT Transition where
  lt first second := first.row < second.row

instance : DecidableLT Transition := fun first second =>
  inferInstanceAs (Decidable (first.row < second.row))

instance : LinearlyOrdered Transition where
  irrefl transition := List.lt_irrefl transition.row
  trans hfirst hsecond := List.lt_trans hfirst hsecond
  eq_of_not_lt hbelow habove :=
    row_injective (List.le_antisymm habove hbelow)

/-- How messages and listings show a transition. -/
def arrow (transition : Transition) : String :=
  transition.source ++ " --" ++ transition.symbol ++ "--> " ++
    transition.target

end Transition

structure Automaton where
  states : SortedSet String
  alphabet : SortedSet String
  transitions : SortedSet Transition
  start : String
  accepting : SortedSet String
  length_symbol : ∀ symbol ∈ alphabet, symbol.length = 1
  start_mem : start ∈ states
  accepting_mem : ∀ state ∈ accepting, state ∈ states
  source_mem : ∀ transition ∈ transitions, transition.source ∈ states
  target_mem : ∀ transition ∈ transitions, transition.target ∈ states
  symbol_mem : ∀ transition ∈ transitions, transition.symbol ∈ alphabet
  deriving DecidableEq

namespace Automaton

theorem eq_of_fields {first second : Automaton}
    (hstates : first.states = second.states)
    (halphabet : first.alphabet = second.alphabet)
    (htransitions : first.transitions = second.transitions)
    (hstart : first.start = second.start)
    (haccepting : first.accepting = second.accepting) : first = second := by
  cases first
  cases second
  subst hstates halphabet htransitions hstart haccepting
  rfl

/-- What a caller says about an automaton, before any check. -/
structure Description where
  states : List String
  alphabet : List String
  transitions : List (List String)
  start : Option String
  accepting : List String

/-- The rows of a table that gives, for a source and a symbol, all targets. -/
def tableRows (table : Registry (Registry (List String))) :
    List (List String) :=
  table.entries.flatMap fun (source, bySymbol) =>
    bySymbol.entries.flatMap fun (symbol, targets) =>
      targets.map fun target => [source, symbol, target]

inductive Fault where
  | alphabetSymbol (symbol : String)
  | start (state : Option String)
  | accepting (state : String)
  | transitionShape (row : List String)
  | source (transition : Transition)
  | target (transition : Transition)
  | symbolLength (transition : Transition)
  | undeclaredSymbol (transition : Transition)
  deriving DecidableEq

namespace Fault

open Text

private def shownStart : Option String → String
  | some state => quoted state
  | none => "None"

private def shownTransition (transition : Transition) : String :=
  "transition " ++ transition.arrow

private def detail : Fault → String
  | alphabetSymbol symbol =>
      "alphabet symbol " ++ quoted symbol ++ " is not a single character"
  | start state =>
      "start state " ++ shownStart state ++ " is not a declared state"
  | accepting state =>
      "accepting state " ++ quoted state ++ " is not a declared state"
  | transitionShape row =>
      "transition " ++ quotedRow row ++
        " is not a (source, symbol, target) triple"
  | source transition =>
      "source " ++ quoted transition.source ++ " of " ++
        shownTransition transition ++ " is not a declared state"
  | target transition =>
      "target " ++ quoted transition.target ++ " of " ++
        shownTransition transition ++ " is not a declared state"
  | symbolLength transition =>
      "symbol " ++ quoted transition.symbol ++ " in " ++
        shownTransition transition ++ " is not a single character"
  | undeclaredSymbol transition =>
      "symbol " ++ quoted transition.symbol ++ " in " ++
        shownTransition transition ++ " is not in the alphabet"

def message (fault : Fault) : String :=
  "Invalid reference: " ++ fault.detail

end Fault

namespace Description

variable (description : Description)

def symbolFault? (symbol : String) : Option Fault :=
  if symbol.length = 1 then none else some (.alphabetSymbol symbol)

def startFault? : Option Fault :=
  match description.start with
  | some state =>
      if state ∈ description.states then none else some (.start (some state))
  | none => some (.start none)

def acceptingFault? (state : String) : Option Fault :=
  if state ∈ description.states then none else some (.accepting state)

def transitionFault? (transition : Transition) : Option Fault :=
  if transition.source ∉ description.states then
    some (.source transition)
  else if transition.target ∉ description.states then
    some (.target transition)
  else if transition.symbol.length ≠ 1 then
    some (.symbolLength transition)
  else if transition.symbol ∉ description.alphabet then
    some (.undeclaredSymbol transition)
  else none

def rowFault? (row : List String) : Option Fault :=
  match Transition.ofRow? row with
  | some transition => description.transitionFault? transition
  | none => some (.transitionShape row)

/-- The first fault, in the order symbols, start, accepting states,
transitions. -/
def fault? : Option Fault :=
  description.alphabet.findSome? symbolFault? <|>
    description.startFault? <|>
    description.accepting.findSome? description.acceptingFault? <|>
    description.transitions.findSome? description.rowFault?

structure WellFormed : Prop where
  length_symbol : ∀ symbol ∈ description.alphabet, symbol.length = 1
  start_mem : ∃ state ∈ description.states, description.start = some state
  accepting_mem : ∀ state ∈ description.accepting, state ∈ description.states
  transition_mem : ∀ row ∈ description.transitions,
    ∃ transition : Transition, row = transition.row ∧
      transition.source ∈ description.states ∧
        transition.target ∈ description.states ∧
          transition.symbol ∈ description.alphabet

variable {description}

theorem startFault?_eq_none_iff :
    description.startFault? = none ↔
      ∃ state ∈ description.states, description.start = some state := by
  unfold startFault?
  cases description.start with
  | none => simp
  | some state => simp

theorem transitionFault?_eq_none_iff {transition : Transition} :
    description.transitionFault? transition = none ↔
      transition.source ∈ description.states ∧
        transition.target ∈ description.states ∧
          transition.symbol.length = 1 ∧
            transition.symbol ∈ description.alphabet := by
  grind [transitionFault?]

theorem rowFault?_eq_none_iff {row : List String} :
    description.rowFault? row = none ↔
      ∃ transition : Transition, row = transition.row ∧
        transition.source ∈ description.states ∧
          transition.target ∈ description.states ∧
            transition.symbol.length = 1 ∧
              transition.symbol ∈ description.alphabet := by
  unfold rowFault?
  cases htransition : Transition.ofRow? row with
  | none =>
      simp only [reduceCtorEq, false_iff, not_exists]
      rintro transition ⟨rfl, _⟩
      simp at htransition
  | some found =>
      have hrow : row = found.row := by
        unfold Transition.ofRow? at htransition
        split at htransition
        · cases htransition
          rfl
        · contradiction
      simp only [transitionFault?_eq_none_iff]
      constructor
      · exact fun h => ⟨found, hrow, h⟩
      · rintro ⟨transition, heq, h⟩
        cases Transition.row_injective (hrow.symm.trans heq)
        exact h

theorem fault?_eq_none_iff :
    description.fault? = none ↔ description.WellFormed := by
  have hlength : ∀ symbol, symbolFault? symbol = none ↔ symbol.length = 1 := by
    intro symbol
    unfold symbolFault?
    split <;> simp_all
  have haccepting : ∀ state, description.acceptingFault? state = none ↔
      state ∈ description.states := by
    intro state
    unfold acceptingFault?
    split <;> simp_all
  simp only [fault?, Option.orElse_eq_orElse, Option.orElse_eq_or,
    Option.or_eq_none_iff, List.findSome?_eq_none_iff, hlength, haccepting,
    startFault?_eq_none_iff, rowFault?_eq_none_iff]
  constructor
  · rintro ⟨hsymbols, hstart, hstates, hrows⟩
    refine ⟨hsymbols, hstart, hstates, ?_⟩
    intro row hrow
    obtain ⟨transition, heq, hsource, htarget, _, hsymbol⟩ := hrows row hrow
    exact ⟨transition, heq, hsource, htarget, hsymbol⟩
  · rintro ⟨hsymbols, hstart, hstates, hrows⟩
    refine ⟨hsymbols, hstart, hstates, ?_⟩
    intro row hrow
    obtain ⟨transition, heq, hsource, htarget, hsymbol⟩ := hrows row hrow
    exact ⟨transition, heq, hsource, htarget, hsymbols _ hsymbol, hsymbol⟩

end Description

private theorem exists_row_of_mem {rows : List (List String)}
    {transition : Transition}
    (h : transition ∈ SortedSet.ofList (rows.filterMap Transition.ofRow?)) :
    transition.row ∈ rows := by
  obtain ⟨row, hrow, hof⟩ := List.mem_filterMap.mp (SortedSet.mem_ofList.mp h)
  unfold Transition.ofRow? at hof
  split at hof
  · cases hof
    exact hrow
  · contradiction

private theorem start_isSome {description : Description}
    (h : description.WellFormed) : description.start.isSome := by
  obtain ⟨state, _, hstate⟩ := h.start_mem
  simp [hstate]

def ofWellFormed (description : Description) (h : description.WellFormed) :
    Automaton where
  states := SortedSet.ofList description.states
  alphabet := SortedSet.ofList description.alphabet
  transitions :=
    SortedSet.ofList (description.transitions.filterMap Transition.ofRow?)
  start := description.start.get (start_isSome h)
  accepting := SortedSet.ofList description.accepting
  length_symbol := by simpa using h.length_symbol
  start_mem := by
    obtain ⟨state, hmem, hstate⟩ := h.start_mem
    simpa [hstate] using hmem
  accepting_mem := by simpa using h.accepting_mem
  source_mem := by
    intro transition hmem
    obtain ⟨_, heq, hsource, _, _⟩ := h.transition_mem _ (exists_row_of_mem hmem)
    cases Transition.row_injective heq
    simpa using hsource
  target_mem := by
    intro transition hmem
    obtain ⟨_, heq, _, htarget, _⟩ := h.transition_mem _ (exists_row_of_mem hmem)
    cases Transition.row_injective heq
    simpa using htarget
  symbol_mem := by
    intro transition hmem
    obtain ⟨_, heq, _, _, hsymbol⟩ := h.transition_mem _ (exists_row_of_mem hmem)
    cases Transition.row_injective heq
    simpa using hsymbol

def ofDescription (description : Description) : Except Fault Automaton :=
  match h : description.fault? with
  | some fault => .error fault
  | none => .ok (ofWellFormed description
      (Description.fault?_eq_none_iff.mp h))

theorem ofDescription_eq_ok {description : Description}
    (h : description.WellFormed) :
    ofDescription description = .ok (ofWellFormed description h) := by
  unfold ofDescription
  split
  · next fault hfault =>
      rw [Description.fault?_eq_none_iff.mpr h] at hfault
      contradiction
  · rfl

theorem exists_ofWellFormed {description : Description} {automaton : Automaton}
    (h : ofDescription description = .ok automaton) :
    ∃ hformed : description.WellFormed,
      ofWellFormed description hformed = automaton := by
  unfold ofDescription at h
  split at h
  · contradiction
  · exact ⟨_, Except.ok.inj h⟩

@[simp] theorem mem_states_ofWellFormed {description : Description}
    {h : description.WellFormed} {state : String} :
    state ∈ (ofWellFormed description h).states ↔
      state ∈ description.states :=
  SortedSet.mem_ofList

@[simp] theorem mem_accepting_ofWellFormed {description : Description}
    {h : description.WellFormed} {state : String} :
    state ∈ (ofWellFormed description h).accepting ↔
      state ∈ description.accepting :=
  SortedSet.mem_ofList

@[simp] theorem mem_transitions_ofWellFormed {description : Description}
    {h : description.WellFormed} {transition : Transition} :
    transition ∈ (ofWellFormed description h).transitions ↔
      transition.row ∈ description.transitions := by
  constructor
  · exact exists_row_of_mem
  · intro hrow
    exact SortedSet.mem_ofList.mpr
      (List.mem_filterMap.mpr ⟨_, hrow, Transition.ofRow?_row transition⟩)

end Automaton

end RightLinear
