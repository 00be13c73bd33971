import RightLinear.Proofs.Automaton.Determinism
import RightLinear.Proofs.Subset.Naming

/-! The deterministic automaton is the powerset automaton cut down to the sets
that words lead to: one state for each of them, and a transition from each set
to the set that a symbol leads to, unless nothing is there. -/

namespace RightLinear.Automaton

/-- Under the names that `label` gives to sets of states, `determinized` has the
reachable sets of `automaton` as states and moves as they do. -/
structure IsTrimmedPowerset (automaton determinized : Automaton)
    (label : SortedSet String → String) : Prop where
  label_injective : ∀ {first second : SortedSet String},
    automaton.IsReachable first → automaton.IsReachable second →
      label first = label second → first = second
  mem_states : ∀ state, state ∈ determinized.states ↔
    ∃ subset, automaton.IsReachable subset ∧ label subset = state
  start : determinized.start = label (SortedSet.singleton automaton.start)
  alphabet : determinized.alphabet = automaton.alphabet
  mem_transitions : ∀ source symbol target,
    ⟨source, symbol, target⟩ ∈ determinized.transitions ↔
      ∃ subset next, automaton.IsReachable subset ∧
        automaton.IsSuccessor subset symbol next ∧
          label subset = source ∧ label next = target
  mem_accepting : ∀ state, state ∈ determinized.accepting ↔
    ∃ subset, automaton.IsReachable subset ∧
      (∃ member ∈ subset, member ∈ automaton.accepting) ∧
        label subset = state

variable {automaton : Automaton}

theorem Table.mem_subsetTransitions {table : automaton.Table}
    {named : List (SortedSet String × String)} {source symbol target : String} :
    ⟨source, symbol, target⟩ ∈ table.subsetTransitions named ↔
      ∃ subset, (subset, source) ∈ named ∧ symbol ∈ automaton.alphabet ∧
        named.lookup (automaton.step subset symbol) = some target := by
  simp only [subsetTransitions, table.step_eq, List.mem_flatMap, List.mem_filterMap,
    Option.map_eq_some_iff, Transition.mk.injEq]
  constructor
  · intro htransition
    obtain ⟨⟨subset, _⟩, hmem, _, hsymbol, _, hlookup, rfl, rfl, rfl⟩ :=
      htransition
    exact ⟨subset, hmem, hsymbol, hlookup⟩
  · intro hentry
    obtain ⟨subset, hmem, hsymbol, hlookup⟩ := hentry
    exact ⟨(subset, source), hmem, symbol, hsymbol, target, hlookup,
      rfl, rfl, rfl⟩

theorem mem_subsetTransitions_namedSubsets {source symbol target : String} :
    ⟨source, symbol, target⟩ ∈
        automaton.table.subsetTransitions automaton.namedSubsets ↔
      ∃ subset next, automaton.IsReachable subset ∧
        automaton.IsSuccessor subset symbol next ∧
          automaton.subsetLabel subset = source ∧
            automaton.subsetLabel next = target := by
  simp only [Table.mem_subsetTransitions, lookup_namedSubsets, mem_namedSubsets]
  constructor
  · intro hentry
    obtain ⟨subset, ⟨hreachable, hsource⟩, _, hnext, htarget⟩ := hentry
    exact ⟨subset, _, hreachable,
      ⟨hnext.nonempty, fun state => mem_step⟩, hsource, htarget⟩
  · intro hmoves
    obtain ⟨subset, next, hreachable, hsuccessor, hsource, htarget⟩ := hmoves
    obtain ⟨_, rfl⟩ := isSuccessor_iff.mp hsuccessor
    exact ⟨subset, ⟨hreachable, hsource⟩, hsuccessor.symbol_mem,
      hreachable.successor hsuccessor, htarget⟩

theorem lookup_start (automaton : Automaton) :
    automaton.namedSubsets.lookup (SortedSet.singleton automaton.start) =
      some (automaton.subsetLabel (SortedSet.singleton automaton.start)) :=
  lookup_namedSubsets.mpr (mem_namedSubsets.mpr ⟨isReachable_start, rfl⟩)

theorem subsetDescription_wellFormed (automaton : Automaton) :
    automaton.subsetDescription.WellFormed := by
  have hstate : ∀ {subset label}, (subset, label) ∈ automaton.namedSubsets →
      label ∈ automaton.namedSubsets.map Prod.snd :=
    fun hmem => List.mem_map.mpr ⟨_, hmem, rfl⟩
  constructor
  · exact automaton.length_symbol
  · refine ⟨_, ?_, automaton.lookup_start⟩
    exact hstate (lookup_namedSubsets.mp automaton.lookup_start)
  · intro label hlabel
    obtain ⟨entry, hentry, rfl⟩ := List.mem_map.mp hlabel
    exact hstate (List.mem_filter.mp hentry).1
  · intro row hrow
    obtain ⟨⟨source, symbol, target⟩, htransition, rfl⟩ := List.mem_map.mp hrow
    obtain ⟨subset, hmem, hsymbol, hlookup⟩ :=
      Table.mem_subsetTransitions.mp htransition
    have htarget := lookup_namedSubsets.mp hlookup
    exact ⟨_, rfl, hstate hmem, hstate htarget, hsymbol⟩

/-- The automaton that the description of the reachable sets gives. -/
def determinized (automaton : Automaton) : Automaton :=
  ofWellFormed automaton.subsetDescription automaton.subsetDescription_wellFormed

theorem determinize_eq_ok (automaton : Automaton) :
    automaton.determinize = .ok automaton.determinized :=
  ofDescription_eq_ok automaton.subsetDescription_wellFormed

theorem mem_states_determinized {state : String} :
    state ∈ automaton.determinized.states ↔
      ∃ subset, automaton.IsReachable subset ∧
        automaton.subsetLabel subset = state := by
  rw [determinized, mem_states_ofWellFormed]
  change state ∈ automaton.namedSubsets.map Prod.snd ↔ _
  simp only [List.mem_map, Prod.exists, mem_namedSubsets, exists_eq_right]

theorem start_determinized (automaton : Automaton) :
    automaton.determinized.start =
      automaton.subsetLabel (SortedSet.singleton automaton.start) := by
  apply Option.some.inj
  rw [← automaton.lookup_start]
  exact Option.some_get _

theorem alphabet_determinized (automaton : Automaton) :
    automaton.determinized.alphabet = automaton.alphabet := by
  ext symbol
  exact SortedSet.mem_ofList

theorem mem_transitions_determinized {source symbol target : String} :
    ⟨source, symbol, target⟩ ∈ automaton.determinized.transitions ↔
      ∃ subset next, automaton.IsReachable subset ∧
        automaton.IsSuccessor subset symbol next ∧
          automaton.subsetLabel subset = source ∧
            automaton.subsetLabel next = target := by
  rw [determinized, mem_transitions_ofWellFormed,
    ← mem_subsetTransitions_namedSubsets]
  exact Transition.row_mem_map_row

theorem mem_accepting_determinized {state : String} :
    state ∈ automaton.determinized.accepting ↔
      ∃ subset, automaton.IsReachable subset ∧
        (∃ member ∈ subset, member ∈ automaton.accepting) ∧
          automaton.subsetLabel subset = state := by
  rw [determinized, mem_accepting_ofWellFormed]
  change state ∈ (automaton.namedSubsets.filter fun entry =>
    automaton.meetsAccepting entry.1).map Prod.snd ↔ _
  simp only [List.mem_map, List.mem_filter, Prod.exists, mem_namedSubsets,
    meetsAccepting_iff, exists_eq_right]
  constructor
  · intro hnamed
    obtain ⟨subset, ⟨hreachable, hlabel⟩, hmeets⟩ := hnamed
    exact ⟨subset, hreachable, hmeets, hlabel⟩
  · intro hnamed
    obtain ⟨subset, hreachable, hmeets, hlabel⟩ := hnamed
    exact ⟨subset, ⟨hreachable, hlabel⟩, hmeets⟩

theorem isTrimmedPowerset_determinized (automaton : Automaton) :
    IsTrimmedPowerset automaton automaton.determinized
      automaton.subsetLabel where
  label_injective := subsetLabel_injective
  mem_states _ := mem_states_determinized
  start := automaton.start_determinized
  alphabet := automaton.alphabet_determinized
  mem_transitions _ _ _ := mem_transitions_determinized
  mem_accepting _ := mem_accepting_determinized

theorem IsTrimmedPowerset.isDeterministic {determinized : Automaton}
    {label : SortedSet String → String}
    (h : IsTrimmedPowerset automaton determinized label) :
    determinized.isDeterministic = true := by
  rw [isDeterministic_iff]
  intro source symbol first second hfirst hsecond
  obtain ⟨subset, next, hreachable, hsuccessor, hsource, rfl⟩ :=
    (h.mem_transitions _ _ _).mp hfirst
  obtain ⟨other, otherNext, hother, hotherSuccessor, hotherSource, rfl⟩ :=
    (h.mem_transitions _ _ _).mp hsecond
  obtain rfl := h.label_injective hreachable hother
    (hsource.trans hotherSource.symm)
  rw [← (isSuccessor_iff.mp hsuccessor).2,
    ← (isSuccessor_iff.mp hotherSuccessor).2]

/-- The exploration ends with the reachable sets, each once, and the automaton
built from them is always well formed. -/
theorem determinize_trimmedPowerset (automaton : Automaton) :
    automaton.reachableSubsets.Nodup ∧
      (∀ subset, subset ∈ automaton.reachableSubsets ↔
        automaton.IsReachable subset) ∧
        ∃ determinized, automaton.determinize = .ok determinized ∧
          IsTrimmedPowerset automaton determinized automaton.subsetLabel ∧
            determinized.isDeterministic = true :=
  ⟨automaton.nodup_reachableSubsets, fun _ => mem_reachableSubsets,
    automaton.determinized, automaton.determinize_eq_ok,
    automaton.isTrimmedPowerset_determinized,
    automaton.isTrimmedPowerset_determinized.isDeterministic⟩

end RightLinear.Automaton
