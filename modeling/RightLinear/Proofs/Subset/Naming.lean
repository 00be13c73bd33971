import Mathlib.Data.List.Induction
import Mathlib.Data.List.Nodup
import RightLinear.Proofs.Automaton.FreshName
import RightLinear.Proofs.Subset.Exploration

/-! Names of sets.  Every reachable set is given one name, and no two of them
share it, whatever the labels of the states look like. -/

namespace RightLinear.Automaton

theorem nameSubsets_concat (subsets : List (SortedSet String))
    (subset : SortedSet String) :
    nameSubsets (subsets ++ [subset]) =
      nameSubsets subsets ++ [(subset, freshName (subsetName subset.toList)
        ((nameSubsets subsets).map Prod.snd))] := by
  rw [nameSubsets, List.foldl_append]
  rfl

theorem map_fst_nameSubsets (subsets : List (SortedSet String)) :
    (nameSubsets subsets).map Prod.fst = subsets := by
  induction subsets using List.reverseRecOn with
  | nil => rfl
  | append_singleton subsets subset ih =>
      rw [nameSubsets_concat, List.map_append, ih]
      rfl

theorem nodup_map_snd_nameSubsets (subsets : List (SortedSet String)) :
    ((nameSubsets subsets).map Prod.snd).Nodup := by
  induction subsets using List.reverseRecOn with
  | nil => exact List.nodup_nil
  | append_singleton subsets subset ih =>
      rw [nameSubsets_concat, List.map_append, List.nodup_append]
      refine ⟨ih, List.nodup_singleton _, ?_⟩
      intro earlier hearlier last hlast heq
      rw [List.map_singleton, List.mem_singleton] at hlast
      rw [heq, hlast] at hearlier
      exact freshName_not_mem _ _ hearlier

/-- The reachable sets with their names, in the order of discovery. -/
def namedSubsets (automaton : Automaton) : List (SortedSet String × String) :=
  nameSubsets automaton.reachableSubsets

def subsetLabel (automaton : Automaton) (subset : SortedSet String) : String :=
  (automaton.namedSubsets.lookup subset).getD ""

variable {automaton : Automaton} {subset : SortedSet String} {label : String}

theorem nodup_map_fst_namedSubsets (automaton : Automaton) :
    (automaton.namedSubsets.map Prod.fst).Nodup := by
  rw [namedSubsets, map_fst_nameSubsets]
  exact automaton.nodup_reachableSubsets

theorem lookup_namedSubsets :
    automaton.namedSubsets.lookup subset = some label ↔
      (subset, label) ∈ automaton.namedSubsets :=
  lookup_eq_some_iff automaton.nodup_map_fst_namedSubsets

theorem exists_mem_namedSubsets :
    (∃ label, (subset, label) ∈ automaton.namedSubsets) ↔
      automaton.IsReachable subset := by
  rw [← mem_reachableSubsets, ← map_fst_nameSubsets automaton.reachableSubsets]
  constructor
  · intro hentry
    obtain ⟨label, hmem⟩ := hentry
    exact List.mem_map.mpr ⟨_, hmem, rfl⟩
  · intro hmem
    obtain ⟨⟨_, label⟩, hentry, rfl⟩ := List.mem_map.mp hmem
    exact ⟨label, hentry⟩

theorem mem_namedSubsets :
    (subset, label) ∈ automaton.namedSubsets ↔
      automaton.IsReachable subset ∧ automaton.subsetLabel subset = label := by
  have hlabel : ∀ {label}, (subset, label) ∈ automaton.namedSubsets →
      automaton.subsetLabel subset = label := by
    intro label hmem
    rw [subsetLabel, lookup_namedSubsets.mpr hmem]
    rfl
  constructor
  · intro hmem
    exact ⟨exists_mem_namedSubsets.mp ⟨label, hmem⟩, hlabel hmem⟩
  · intro hlabelled
    obtain ⟨hreachable, rfl⟩ := hlabelled
    obtain ⟨label, hmem⟩ := exists_mem_namedSubsets.mpr hreachable
    rw [hlabel hmem]
    exact hmem

theorem subsetLabel_injective {first second : SortedSet String}
    (hfirst : automaton.IsReachable first)
    (hsecond : automaton.IsReachable second)
    (heq : automaton.subsetLabel first = automaton.subsetLabel second) :
    first = second := by
  have hfirstMem := mem_namedSubsets.mpr ⟨hfirst, heq⟩
  have hsecondMem := mem_namedSubsets.mpr ⟨hsecond, rfl⟩
  have hentries := List.inj_on_of_nodup_map
    (nodup_map_snd_nameSubsets automaton.reachableSubsets)
    hfirstMem hsecondMem rfl
  exact congrArg Prod.fst hentries

end RightLinear.Automaton
