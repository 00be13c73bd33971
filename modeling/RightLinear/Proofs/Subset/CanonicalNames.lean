import Mathlib.Data.List.Infix
import RightLinear.Proofs.Subset.Discovery
import RightLinear.Proofs.Subset.Powerset

/-! Which name a set of states is given.  Sets that are written alike are told apart
by primes in the order of their discovery, and a name that is primed never meets
one that is written in another way.  Where no label has a comma, sets that differ
are written differently and no name is primed. -/

namespace RightLinear

section Writing

theorem toList_subsetName (labels : List String) :
    (subsetName labels).toList =
      '\x7b' :: ([','].intercalate (labels.mergeSort.map String.toList) ++
        ['\x7d']) := by
  simp [subsetName]

/-- What stands before the last mark, and how much stands after it. -/
theorem append_replicate_inj {α : Type} {mark fill : α} (hne : mark ≠ fill) :
    {first second : List α} → {count other : Nat} →
      first ++ [mark] ++ List.replicate count fill =
        second ++ [mark] ++ List.replicate other fill →
        first = second ∧ count = other
  | _, _, 0, 0, h => by simpa using h
  | _, _, 0, other + 1, h => by
      rw [List.replicate_succ', ← List.append_assoc, List.replicate_zero,
        List.append_nil, List.append_singleton_inj] at h
      exact absurd h.2 hne
  | _, _, count + 1, 0, h => by
      rw [List.replicate_succ', ← List.append_assoc, List.replicate_zero,
        List.append_nil, List.append_singleton_inj] at h
      exact absurd h.2.symm hne
  | _, _, count + 1, other + 1, h => by
      rw [List.replicate_succ', List.replicate_succ', ← List.append_assoc,
        ← List.append_assoc, List.append_singleton_inj] at h
      obtain ⟨hbefore, hcount⟩ := append_replicate_inj hne h.1
      exact ⟨hbefore, congrArg (· + 1) hcount⟩

/-- The last brace of a name tells where its primes begin. -/
theorem primed_subsetName_inj {first second : List String} {count other : Nat}
    (h : primed (subsetName first) count = primed (subsetName second) other) :
    subsetName first = subsetName second ∧ count = other := by
  have htext := congrArg String.toList h
  rw [toList_primed, toList_primed, toList_subsetName, toList_subsetName,
    ← List.cons_append, ← List.cons_append] at htext
  obtain ⟨hbody, hcount⟩ := append_replicate_inj (by decide) htext
  refine ⟨String.toList_injective ?_, hcount⟩
  rw [toList_subsetName, toList_subsetName, ← List.cons_append, hbody,
    List.cons_append]

/-- Labels without commas can be read off the name. -/
theorem subsetName_injective {first second : SortedSet String}
    (hfirst : ∃ label, label ∈ first) (hsecond : ∃ label, label ∈ second)
    (hplain : ∀ label, label ∈ first ∨ label ∈ second → ',' ∉ label.toList)
    (h : subsetName first.toList = subsetName second.toList) : first = second := by
  have hreads : ∀ {set : SortedSet String}, (∃ label, label ∈ set) →
      (∀ label ∈ set, ',' ∉ label.toList) →
        ([','].intercalate (set.toList.mergeSort.map String.toList)).splitOn ',' =
          set.toList.mergeSort.map String.toList := by
    intro set hnonempty hset
    obtain ⟨label, hlabel⟩ := hnonempty
    apply List.splitOn_intercalate
    · rw [List.forall_mem_map]
      exact fun label hlabel => hset label (List.mem_mergeSort.mp hlabel)
    · exact List.ne_nil_of_mem (List.mem_map_of_mem (List.mem_mergeSort.mpr hlabel))
  have htext := congrArg String.toList h
  rw [toList_subsetName, toList_subsetName, List.cons_inj_right,
    List.append_cancel_right_eq] at htext
  have hlabels := congrArg (List.splitOn ',') htext
  rw [hreads hfirst fun label hlabel => hplain label (.inl hlabel),
    hreads hsecond fun label hlabel => hplain label (.inr hlabel)] at hlabels
  have hsorted := List.map_injective_iff.mpr
    (fun _ _ heq => String.toList_injective heq) hlabels
  ext label
  rw [← SortedSet.mem_toList, ← List.mem_mergeSort, hsorted, List.mem_mergeSort,
    SortedSet.mem_toList]

end Writing

namespace Automaton

/-- Whether two sets are written alike. -/
def sharesName (subset other : SortedSet String) : Bool :=
  subsetName other.toList == subsetName subset.toList

section Naming

variable {earlier : List (SortedSet String)} {subset : SortedSet String}

/-- By induction on the sets from the last one: it takes the first name that those
written alike have left. -/
theorem mem_names_nameSubsets (subsets : List (SortedSet String))
    (subset : SortedSet String) (count : Nat) :
    primed (subsetName subset.toList) count ∈
        (nameSubsets subsets).map Prod.snd ↔
      count < subsets.countP (sharesName subset) := by
  induction subsets using List.reverseRecOn generalizing subset count with
  | nil => simp [nameSubsets]
  | append_singleton subsets last ih =>
      rw [nameSubsets_concat, freshName_eq_primed (ih last), List.map_append,
        List.map_singleton, List.mem_append, List.mem_singleton, ih,
        List.countP_append, List.countP_singleton]
      by_cases hshares : sharesName subset last = true
      · have hsame : subsetName last.toList = subsetName subset.toList :=
          eq_of_beq hshares
        have halike : sharesName last = sharesName subset := by
          funext other
          rw [sharesName, sharesName, hsame]
        rw [if_pos hshares, hsame, halike]
        constructor
        · intro hnamed
          rcases hnamed with hless | hlast
          · omega
          · have hcount := (primed_subsetName_inj hlast).2
            omega
        · intro hless
          rcases Nat.lt_succ_iff_lt_or_eq.mp hless with hbelow | rfl
          · exact .inl hbelow
          · exact .inr rfl
      · rw [if_neg hshares, Nat.add_zero, or_iff_left_iff_imp]
        intro hlast
        have hsame := (primed_subsetName_inj hlast).1
        exact absurd (beq_iff_eq.mpr hsame.symm) hshares

theorem nameSubsets_prefix (subsets later : List (SortedSet String)) :
    nameSubsets subsets <+: nameSubsets (subsets ++ later) := by
  induction later using List.reverseRecOn with
  | nil => rw [List.append_nil]
  | append_singleton later last ih =>
      rw [← List.append_assoc, nameSubsets_concat]
      exact ih.trans (List.prefix_append _ _)

variable {automaton : Automaton} {later : List (SortedSet String)}

theorem subsetLabel_eq_primed
    (h : automaton.reachableSubsets = earlier ++ subset :: later) :
    automaton.subsetLabel subset =
      primed (subsetName subset.toList) (earlier.countP (sharesName subset)) := by
  have hnamed := nameSubsets_prefix (earlier ++ [subset]) later
  rw [nameSubsets_concat, List.append_assoc, List.singleton_append, ← h,
    freshName_eq_primed (mem_names_nameSubsets earlier subset)] at hnamed
  exact (mem_namedSubsets.mp (hnamed.subset (by simp))).2

/-- The sets written as `subset` is that are discovered before it, each once. -/
structure ListsNamesakes (automaton : Automaton) (subset : SortedSet String)
    (namesakes : List (SortedSet String)) : Prop where
  nodup : namesakes.Nodup
  mem_iff : ∀ other, other ∈ namesakes ↔ automaton.IsReachable other ∧
    subsetName other.toList = subsetName subset.toList ∧
      automaton.IsBefore other subset

theorem exists_namesakes (hreachable : automaton.IsReachable subset) :
    ∃ namesakes, automaton.ListsNamesakes subset namesakes ∧
      automaton.subsetLabel subset =
        primed (subsetName subset.toList) namesakes.length := by
  obtain ⟨earlier, later, hsplit⟩ :=
    List.append_of_mem (mem_reachableSubsets.mpr hreachable)
  have hnodup := automaton.nodup_reachableSubsets
  have horder := automaton.pairwise_isBefore_reachableSubsets
  rw [hsplit, List.pairwise_append, List.pairwise_cons] at horder
  rw [hsplit, List.nodup_append] at hnodup
  refine ⟨earlier.filter (sharesName subset), ⟨hnodup.1.filter _, ?_⟩, ?_⟩
  · intro other
    rw [List.mem_filter, ← mem_reachableSubsets, hsplit, sharesName, beq_iff_eq]
    constructor
    · intro hnamesake
      obtain ⟨hearlier, hsame⟩ := hnamesake
      exact ⟨List.mem_append_left _ hearlier, hsame,
        horder.2.2 other hearlier subset List.mem_cons_self⟩
    · intro hnamesake
      obtain ⟨hmem, hsame, hbefore⟩ := hnamesake
      rcases List.mem_append.mp hmem with hearlier | hlater
      · exact ⟨hearlier, hsame⟩
      rcases List.mem_cons.mp hlater with rfl | hafter
      · exact absurd hbefore hbefore.asymm
      · exact absurd hbefore (horder.2.1.1 other hafter).asymm
  · rw [subsetLabel_eq_primed hsplit, List.countP_eq_length_filter]

/-- A set that is written as no other one is named without primes. -/
theorem subsetLabel_eq_subsetName (hreachable : automaton.IsReachable subset)
    (halone : ∀ other, automaton.IsReachable other →
      subsetName other.toList = subsetName subset.toList → other = subset) :
    automaton.subsetLabel subset = subsetName subset.toList := by
  obtain ⟨namesakes, hnamesakes, hlabel⟩ := exists_namesakes hreachable
  have hnone : namesakes = [] := by
    rw [List.eq_nil_iff_forall_not_mem]
    intro other hother
    obtain ⟨hreached, hsame, hbefore⟩ := (hnamesakes.mem_iff other).mp hother
    obtain rfl := halone other hreached hsame
    exact hbefore.asymm hbefore
  rw [hlabel, hnone, List.length_nil, primed_zero]

end Naming

section Plain

variable {automaton : Automaton} {subset : SortedSet String}

theorem IsReachable.mem_states (h : automaton.IsReachable subset) :
    ∀ state ∈ subset, state ∈ automaton.states := by
  apply h.induction
    (motive := fun subset => ∀ state ∈ subset, state ∈ automaton.states)
  · intro state hstate
    rw [SortedSet.mem_singleton.mp hstate]
    exact automaton.start_mem
  · intro subset symbol next _ hsuccessor _ state hstate
    obtain ⟨source, _, htransition⟩ := (hsuccessor.mem_iff state).mp hstate
    exact automaton.target_mem _ htransition

theorem subsetLabel_of_plain
    (hplain : ∀ state ∈ automaton.states, ',' ∉ state.toList)
    (hreachable : automaton.IsReachable subset) :
    automaton.subsetLabel subset = subsetName subset.toList := by
  apply subsetLabel_eq_subsetName hreachable
  intro other hother hsame
  apply subsetName_injective hother.nonempty hreachable.nonempty ?_ hsame
  rintro label (hlabel | hlabel)
  · exact hplain label (hother.mem_states label hlabel)
  · exact hplain label (hreachable.mem_states label hlabel)

end Plain

section Listing

variable {first second : Description}

/-- The same states, symbols, transitions and accepting states, in any order and
listed any number of times. -/
structure Description.ListsSame (first second : Description) : Prop where
  states : ∀ state, state ∈ first.states ↔ state ∈ second.states
  alphabet : ∀ symbol, symbol ∈ first.alphabet ↔ symbol ∈ second.alphabet
  transitions : ∀ row, row ∈ first.transitions ↔ row ∈ second.transitions
  start : first.start = second.start
  accepting : ∀ state, state ∈ first.accepting ↔ state ∈ second.accepting

theorem Description.ListsSame.wellFormed (h : first.ListsSame second)
    (hformed : first.WellFormed) : second.WellFormed where
  length_symbol symbol hsymbol :=
    hformed.length_symbol symbol ((h.alphabet symbol).mpr hsymbol)
  start_mem := by
    obtain ⟨state, hstate, hstart⟩ := hformed.start_mem
    exact ⟨state, (h.states state).mp hstate, h.start ▸ hstart⟩
  accepting_mem state hstate :=
    (h.states state).mp (hformed.accepting_mem state ((h.accepting state).mpr hstate))
  transition_mem row hrow := by
    obtain ⟨transition, hshape, hsource, htarget, hsymbol⟩ :=
      hformed.transition_mem row ((h.transitions row).mpr hrow)
    exact ⟨transition, hshape, (h.states _).mp hsource, (h.states _).mp htarget,
      (h.alphabet _).mp hsymbol⟩

theorem Description.ListsSame.ofDescription_eq {automaton : Automaton}
    (h : first.ListsSame second) (hfirst : ofDescription first = .ok automaton) :
    ofDescription second = .ok automaton := by
  obtain ⟨hformed, rfl⟩ := exists_ofWellFormed hfirst
  rw [ofDescription_eq_ok (h.wellFormed hformed)]
  apply congrArg Except.ok
  apply eq_of_fields
  · ext state
    rw [mem_states_ofWellFormed, mem_states_ofWellFormed, h.states]
  · ext symbol
    exact SortedSet.mem_ofList.trans
      ((h.alphabet symbol).symm.trans SortedSet.mem_ofList.symm)
  · ext transition
    rw [mem_transitions_ofWellFormed, mem_transitions_ofWellFormed, h.transitions]
  · apply Option.some.inj
    exact (Option.some_get _).trans (h.start.symm.trans (Option.some_get _).symm)
  · ext state
    rw [mem_accepting_ofWellFormed, mem_accepting_ofWellFormed, h.accepting]

end Listing

/-- The name of a set is decided by how it is written and by the sets written alike
that words lead to earlier.  The order in which the automaton is described plays no
part, and without commas in the labels no name is primed. -/
theorem determinize_names_canonical (automaton : Automaton) :
    ∃ determinized, automaton.determinize = .ok determinized ∧
      IsTrimmedPowerset automaton determinized automaton.subsetLabel ∧
      automaton.reachableSubsets.Pairwise automaton.IsBefore ∧
      (∀ subset, automaton.IsReachable subset →
        ∃ namesakes, automaton.ListsNamesakes subset namesakes ∧
          automaton.subsetLabel subset =
            primed (subsetName subset.toList) namesakes.length) ∧
      (∀ first second : Description, first.ListsSame second →
        ofDescription first = .ok automaton →
          ∃ other, ofDescription second = .ok other ∧
            other.determinize = .ok determinized) ∧
      ((∀ state ∈ automaton.states, ',' ∉ state.toList) →
        (∀ subset, automaton.IsReachable subset →
          automaton.subsetLabel subset = subsetName subset.toList) ∧
        ∀ state, state ∈ determinized.states ↔
          ∃ subset, automaton.IsReachable subset ∧
            subsetName subset.toList = state) := by
  refine ⟨automaton.determinized, automaton.determinize_eq_ok,
    automaton.isTrimmedPowerset_determinized,
    automaton.pairwise_isBefore_reachableSubsets, fun _ => exists_namesakes, ?_, ?_⟩
  · intro first second hsame hfirst
    exact ⟨automaton, hsame.ofDescription_eq hfirst, automaton.determinize_eq_ok⟩
  · intro hplain
    refine ⟨fun _ => subsetLabel_of_plain hplain, fun state => ?_⟩
    rw [mem_states_determinized]
    refine exists_congr fun subset => and_congr_right fun hreachable => ?_
    rw [subsetLabel_of_plain hplain hreachable]

end Automaton

end RightLinear
