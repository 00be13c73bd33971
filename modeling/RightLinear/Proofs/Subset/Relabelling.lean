import RightLinear.Proofs.Subset.CanonicalNames
import RightLinear.Proofs.Subset.Language

/-! The subset construction on a deterministic automaton.  Every set that a word
leads to has a single state, and sets of one state are never written alike, so the
states that words lead to are kept with braces around their names.  The result of
the construction is deterministic and all its states are led to: another pass only
adds braces. -/

namespace RightLinear

/-- The name of a set of one state. -/
def braced (label : String) : String := "\x7b" ++ label ++ "\x7d"

theorem subsetName_singleton (label : String) :
    subsetName [label] = braced label := by
  simp [subsetName, braced]

theorem braced_injective {first second : String}
    (h : braced first = braced second) : first = second := by
  have htext := congrArg String.toList h
  simp only [braced, String.toList_append, List.append_cancel_right_eq,
    List.append_cancel_left_eq] at htext
  exact String.toList_injective htext

/-- The same transition under other names of the states. -/
def Transition.relabel (label : String → String) (transition : Transition) :
    Transition :=
  ⟨label transition.source, transition.symbol, label transition.target⟩

namespace Automaton

/-- The same automaton under other names of the states; states of one name become
one state. -/
def relabel (label : String → String) (automaton : Automaton) : Automaton where
  states := SortedSet.ofList (automaton.states.toList.map label)
  alphabet := automaton.alphabet
  transitions :=
    SortedSet.ofList (automaton.transitions.toList.map (Transition.relabel label))
  start := label automaton.start
  accepting := SortedSet.ofList (automaton.accepting.toList.map label)
  length_symbol := automaton.length_symbol
  start_mem := SortedSet.mem_ofList.mpr (List.mem_map_of_mem automaton.start_mem)
  accepting_mem := by
    intro state hstate
    obtain ⟨original, horiginal, rfl⟩ :=
      List.mem_map.mp (SortedSet.mem_ofList.mp hstate)
    exact SortedSet.mem_ofList.mpr
      (List.mem_map_of_mem (automaton.accepting_mem original horiginal))
  source_mem := by
    intro transition htransition
    obtain ⟨original, horiginal, rfl⟩ :=
      List.mem_map.mp (SortedSet.mem_ofList.mp htransition)
    exact SortedSet.mem_ofList.mpr
      (List.mem_map_of_mem (automaton.source_mem original horiginal))
  target_mem := by
    intro transition htransition
    obtain ⟨original, horiginal, rfl⟩ :=
      List.mem_map.mp (SortedSet.mem_ofList.mp htransition)
    exact SortedSet.mem_ofList.mpr
      (List.mem_map_of_mem (automaton.target_mem original horiginal))
  symbol_mem := by
    intro transition htransition
    obtain ⟨original, horiginal, rfl⟩ :=
      List.mem_map.mp (SortedSet.mem_ofList.mp htransition)
    exact automaton.symbol_mem original horiginal

/-- Some word leads from the start to `state`. -/
def Visits (automaton : Automaton) (state : String) : Prop :=
  ∃ word, automaton.Path automaton.start word state

/-- Under the names that `label` gives, `part` is what words lead to in
`automaton`. -/
structure IsVisitedPart (automaton part : Automaton) (label : String → String) :
    Prop where
  mem_states : ∀ state, state ∈ part.states ↔
    ∃ original, automaton.Visits original ∧ label original = state
  start : part.start = label automaton.start
  alphabet : part.alphabet = automaton.alphabet
  mem_transitions : ∀ source symbol target,
    ⟨source, symbol, target⟩ ∈ part.transitions ↔
      ∃ first second, automaton.Visits first ∧
        ⟨first, symbol, second⟩ ∈ automaton.transitions ∧
          label first = source ∧ label second = target
  mem_accepting : ∀ original, automaton.Visits original →
    (label original ∈ part.accepting ↔ original ∈ automaton.accepting)

variable {automaton part : Automaton} {label : String → String}

theorem IsReachable.visits {subset : SortedSet String} {state : String}
    (h : automaton.IsReachable subset) (hstate : state ∈ subset) :
    automaton.Visits state := by
  obtain ⟨word, _, hends⟩ := h.word
  exact ⟨word, (hends state).mp hstate⟩

theorem Visits.mem_states {state : String} (h : automaton.Visits state) :
    state ∈ automaton.states := by
  obtain ⟨word, hpath⟩ := h
  have hmem := mem_run_start.mpr hpath
  exact (isReachable_start.run ⟨state, hmem⟩).mem_states state hmem

theorem IsVisitedPart.eq_relabel (h : IsVisitedPart automaton part label)
    (hvisits : ∀ state ∈ automaton.states, automaton.Visits state) :
    part = automaton.relabel label := by
  apply eq_of_fields
  · ext state
    rw [h.mem_states, relabel, SortedSet.mem_ofList, List.mem_map]
    constructor
    · intro hstate
      obtain ⟨original, hvisited, rfl⟩ := hstate
      exact ⟨original, hvisited.mem_states, rfl⟩
    · intro hstate
      obtain ⟨original, hmem, rfl⟩ := hstate
      exact ⟨original, hvisits original hmem, rfl⟩
  · exact h.alphabet
  · ext ⟨source, symbol, target⟩
    rw [h.mem_transitions, relabel, SortedSet.mem_ofList, List.mem_map]
    constructor
    · intro hmoves
      obtain ⟨first, second, _, hmem, rfl, rfl⟩ := hmoves
      exact ⟨⟨first, symbol, second⟩, hmem, rfl⟩
    · intro hmoves
      obtain ⟨⟨first, _, second⟩, hmem, ⟨⟩⟩ := hmoves
      exact ⟨first, second, hvisits first (automaton.source_mem _ hmem), hmem, rfl,
        rfl⟩
  · exact h.start
  · ext state
    rw [relabel, SortedSet.mem_ofList, List.mem_map]
    constructor
    · intro hstate
      obtain ⟨original, hvisited, rfl⟩ :=
        (h.mem_states state).mp (part.accepting_mem state hstate)
      exact ⟨original, (h.mem_accepting original hvisited).mp hstate, rfl⟩
    · intro hstate
      obtain ⟨original, hmem, rfl⟩ := hstate
      have hvisited := hvisits original (automaton.accepting_mem original hmem)
      exact (h.mem_accepting original hvisited).mpr hmem

section Deterministic

variable {subset : SortedSet String} {state source symbol target : String}

theorem exists_eq_singleton (hdeterministic : automaton.isDeterministic = true)
    (h : automaton.IsReachable subset) :
    ∃ state, automaton.Visits state ∧ subset = SortedSet.singleton state := by
  have hsingle : ∃ state, subset = SortedSet.singleton state := by
    apply h.induction
      (motive := fun subset => ∃ state, subset = SortedSet.singleton state)
    · exact ⟨automaton.start, rfl⟩
    · rintro _ symbol next _ hsuccessor ⟨source, rfl⟩
      obtain ⟨target, htarget⟩ := hsuccessor.nonempty
      obtain ⟨_, hsource, htransition⟩ := (hsuccessor.mem_iff target).mp htarget
      obtain rfl := SortedSet.mem_singleton.mp hsource
      refine ⟨target, ?_⟩
      ext other
      rw [SortedSet.mem_singleton]
      constructor
      · intro hother
        obtain ⟨_, hsame, hsecond⟩ := (hsuccessor.mem_iff other).mp hother
        obtain rfl := SortedSet.mem_singleton.mp hsame
        exact isDeterministic_iff.mp hdeterministic hsecond htransition
      · rintro rfl
        exact htarget
  obtain ⟨state, rfl⟩ := hsingle
  exact ⟨state, h.visits (SortedSet.mem_singleton.mpr rfl), rfl⟩

theorem isReachable_singleton (hdeterministic : automaton.isDeterministic = true)
    (h : automaton.Visits state) :
    automaton.IsReachable (SortedSet.singleton state) := by
  obtain ⟨word, hpath⟩ := h
  have hmem := mem_run_start.mpr hpath
  have hreachable := isReachable_start.run ⟨state, hmem⟩
  obtain ⟨other, _, heq⟩ := exists_eq_singleton hdeterministic hreachable
  rw [heq] at hmem hreachable
  rwa [SortedSet.mem_singleton.mp hmem]

theorem subsetLabel_singleton (hdeterministic : automaton.isDeterministic = true)
    (h : automaton.Visits state) :
    automaton.subsetLabel (SortedSet.singleton state) = braced state := by
  rw [subsetLabel_eq_subsetName (isReachable_singleton hdeterministic h),
    SortedSet.toList_singleton, subsetName_singleton]
  intro other hother hsame
  obtain ⟨found, _, rfl⟩ := exists_eq_singleton hdeterministic hother
  rw [SortedSet.toList_singleton, SortedSet.toList_singleton,
    subsetName_singleton, subsetName_singleton] at hsame
  rw [braced_injective hsame]

theorem isSuccessor_singleton_iff
    (hdeterministic : automaton.isDeterministic = true) :
    automaton.IsSuccessor (SortedSet.singleton source) symbol
        (SortedSet.singleton target) ↔
      ⟨source, symbol, target⟩ ∈ automaton.transitions := by
  constructor
  · intro h
    obtain ⟨_, hsource, htransition⟩ :=
      (h.mem_iff target).mp (SortedSet.mem_singleton.mpr rfl)
    rwa [SortedSet.mem_singleton.mp hsource] at htransition
  · intro h
    refine ⟨⟨target, SortedSet.mem_singleton.mpr rfl⟩, fun other => ?_⟩
    rw [SortedSet.mem_singleton]
    constructor
    · rintro rfl
      exact ⟨source, SortedSet.mem_singleton.mpr rfl, h⟩
    · intro hmoves
      obtain ⟨_, hsource, hother⟩ := hmoves
      obtain rfl := SortedSet.mem_singleton.mp hsource
      exact isDeterministic_iff.mp hdeterministic hother h

theorem isVisitedPart_determinized
    (hdeterministic : automaton.isDeterministic = true) :
    IsVisitedPart automaton automaton.determinized braced where
  mem_states state := by
    rw [mem_states_determinized]
    constructor
    · intro hstate
      obtain ⟨subset, hreachable, rfl⟩ := hstate
      obtain ⟨original, hvisited, rfl⟩ :=
        exists_eq_singleton hdeterministic hreachable
      exact ⟨original, hvisited, (subsetLabel_singleton hdeterministic hvisited).symm⟩
    · intro hstate
      obtain ⟨original, hvisited, rfl⟩ := hstate
      exact ⟨_, isReachable_singleton hdeterministic hvisited,
        subsetLabel_singleton hdeterministic hvisited⟩
  start := by
    rw [start_determinized]
    exact subsetLabel_singleton hdeterministic ⟨[], .nil _⟩
  alphabet := automaton.alphabet_determinized
  mem_transitions source symbol target := by
    rw [mem_transitions_determinized]
    constructor
    · intro hmoves
      obtain ⟨subset, next, hreachable, hsuccessor, rfl, rfl⟩ := hmoves
      obtain ⟨first, hfirst, rfl⟩ := exists_eq_singleton hdeterministic hreachable
      obtain ⟨second, hsecond, rfl⟩ :=
        exists_eq_singleton hdeterministic (hreachable.successor hsuccessor)
      exact ⟨first, second, hfirst,
        (isSuccessor_singleton_iff hdeterministic).mp hsuccessor,
        (subsetLabel_singleton hdeterministic hfirst).symm,
        (subsetLabel_singleton hdeterministic hsecond).symm⟩
    · intro hmoves
      obtain ⟨first, second, hfirst, htransition, rfl, rfl⟩ := hmoves
      have hreachable := isReachable_singleton hdeterministic hfirst
      have hsuccessor :=
        (isSuccessor_singleton_iff hdeterministic).mpr htransition
      have hsecond :=
        (hreachable.successor hsuccessor).visits (SortedSet.mem_singleton.mpr rfl)
      exact ⟨_, _, hreachable, hsuccessor,
        subsetLabel_singleton hdeterministic hfirst,
        subsetLabel_singleton hdeterministic hsecond⟩
  mem_accepting original hvisited := by
    rw [mem_accepting_determinized]
    constructor
    · intro haccepts
      obtain ⟨subset, hreachable, ⟨member, hmember, haccepting⟩, hlabel⟩ := haccepts
      obtain ⟨found, hfound, rfl⟩ := exists_eq_singleton hdeterministic hreachable
      rw [subsetLabel_singleton hdeterministic hfound] at hlabel
      rwa [← braced_injective hlabel, ← SortedSet.mem_singleton.mp hmember]
    · intro haccepting
      exact ⟨_, isReachable_singleton hdeterministic hvisited,
        ⟨original, SortedSet.mem_singleton.mpr rfl, haccepting⟩,
        subsetLabel_singleton hdeterministic hvisited⟩

end Deterministic

/-- A word that leads to a set leads to the state of that name. -/
theorem visits_determinized {state : String}
    (h : state ∈ automaton.determinized.states) :
    automaton.determinized.Visits state := by
  obtain ⟨subset, hreachable, rfl⟩ := mem_states_determinized.mp h
  obtain ⟨_, word, _, hrun⟩ := isReachable_iff.mp hreachable
  refine ⟨word, ?_⟩
  rw [start_determinized,
    automaton.isTrimmedPowerset_determinized.path_iff isReachable_start, hrun]
  exact ⟨hreachable.nonempty, rfl⟩

/-- A deterministic automaton keeps its states, as far as words lead to them, with
braces around their names, and a second construction does no more than that. -/
theorem determinize_deterministic (automaton : Automaton) :
    (automaton.isDeterministic = true →
      ∃ determinized, automaton.determinize = .ok determinized ∧
        IsVisitedPart automaton determinized braced) ∧
      ∃ determinized, automaton.determinize = .ok determinized ∧
        determinized.determinize = .ok (determinized.relabel braced) := by
  constructor
  · intro hdeterministic
    exact ⟨automaton.determinized, automaton.determinize_eq_ok,
      isVisitedPart_determinized hdeterministic⟩
  · refine ⟨automaton.determinized, automaton.determinize_eq_ok, ?_⟩
    have hdeterministic :=
      automaton.isTrimmedPowerset_determinized.isDeterministic
    rw [determinize_eq_ok, (isVisitedPart_determinized hdeterministic).eq_relabel
      fun _ => visits_determinized]

end Automaton

end RightLinear
