import Mathlib.Data.List.Induction
import Mathlib.Data.List.Nodup
import RightLinear.Collection.Load
import RightLinear.Text.DecimalDigit

/-! Registries and collections put together.  The later entries go into the
earlier ones, so names keep the place of their first appearance and values are
the latest ones, and it makes no difference whether entries come one by one or
as a registry of their own. -/

namespace RightLinear

namespace Registry

variable {α : Type}

theorem eq_of_get?_eq {first second : Registry α}
    (hnames : first.names = second.names)
    (hget : ∀ name, first.get? name = second.get? name) : first = second := by
  have hvalues : ∀ registry : Registry α,
      registry.entries.map (fun entry => (entry.1, some entry.2)) =
        registry.names.map (fun name => (name, registry.get? name)) := by
    intro registry
    rw [names, List.map_map]
    apply List.map_congr_left
    intro entry hentry
    have hvalue := get?_eq_some_iff.mpr hentry
    simp only [Function.comp_apply, hvalue]
  have hentries : first.entries.map (fun entry => (entry.1, some entry.2)) =
      second.entries.map (fun entry => (entry.1, some entry.2)) := by
    rw [hvalues first, hvalues second, hnames]
    simp only [hget]
  apply entries_injective
  refine (List.map_inj_right ?_).mp hentries
  rintro ⟨name, value⟩ ⟨other, found⟩ heq
  simpa using heq

/-- Entries put in one by one. -/
def insertAll (registry : Registry α) (entries : List (String × α)) :
    Registry α :=
  entries.foldl (fun registry (name, value) => registry.insert name value)
    registry

theorem insertAll_cons (registry : Registry α) (name : String) (value : α)
    (entries : List (String × α)) :
    registry.insertAll ((name, value) :: entries) =
      (registry.insert name value).insertAll entries := rfl

theorem insertAll_append (registry : Registry α)
    (first second : List (String × α)) :
    registry.insertAll (first ++ second) =
      (registry.insertAll first).insertAll second :=
  List.foldl_append

theorem insertAll_concat (registry : Registry α) (entries : List (String × α))
    (name : String) (value : α) :
    registry.insertAll (entries ++ [(name, value)]) =
      (registry.insertAll entries).insert name value :=
  registry.insertAll_append entries [(name, value)]

/-- The last value for a name is found. -/
theorem get?_insertAll (registry : Registry α) (entries : List (String × α))
    (name : String) :
    (registry.insertAll entries).get? name =
      (entries.reverse.lookup name).or (registry.get? name) := by
  induction entries generalizing registry with
  | nil => rfl
  | cons entry entries ih =>
      obtain ⟨other, value⟩ := entry
      rw [insertAll_cons, ih, get?_insert, List.reverse_cons,
        List.lookup_append, Option.or_assoc, List.lookup_cons]
      by_cases hname : name = other
      · simp [hname]
      · simp [hname, beq_eq_false_iff_ne.mpr hname]

/-- What is left of entries that come one after the other: each name stands
where it was first given, with the value that it was given last. -/
structure Collects (entries : List (String × α)) (registry : Registry α) :
    Prop where
  names : registry.names = (entries.map Prod.fst).eraseDups
  get?_eq : ∀ name, registry.get? name = entries.reverse.lookup name

theorem collects_insertAll (entries : List (String × α)) :
    ((∅ : Registry α).insertAll entries).Collects entries where
  names := by
    induction entries using List.reverseRecOn with
    | nil => rfl
    | append_singleton entries entry ih =>
        obtain ⟨name, value⟩ := entry
        rw [insertAll_concat, names_insert, ih, List.map_append,
          List.map_singleton, eraseDups_concat]
        simp only [List.mem_eraseDups]
  get?_eq name := by
    rw [get?_insertAll, get?_empty, Option.or_none]

example : ((∅ : Registry Nat).insertAll
    [("a", 1), ("b", 2), ("a", 3)]).entries = [("a", 3), ("b", 2)] := rfl

section Distinct

variable {entries : List (String × α)}

theorem lookup_reverse (hnodup : (entries.map Prod.fst).Nodup)
    (name : String) : entries.reverse.lookup name = entries.lookup name := by
  apply Option.ext
  intro value
  have hreverse : (entries.reverse.map Prod.fst).Nodup := by
    rwa [List.map_reverse, List.nodup_reverse]
  rw [lookup_eq_some_iff hreverse, lookup_eq_some_iff hnodup,
    List.mem_reverse]

theorem names_insertAll (hnodup : (entries.map Prod.fst).Nodup)
    (registry : Registry α) :
    (registry.insertAll entries).names =
      registry.names ++
        (entries.map Prod.fst).filter (· ∉ registry.names) := by
  induction entries generalizing registry with
  | nil => simp [insertAll]
  | cons entry entries ih =>
      obtain ⟨name, value⟩ := entry
      rw [List.map_cons, List.nodup_cons] at hnodup
      rw [insertAll_cons, ih hnodup.2, names_insert, List.map_cons]
      split
      · next hmem => simp [hmem]
      · next hmem =>
          have hlater : ∀ other ∈ entries.map Prod.fst, other ≠ name := by
            rintro other hother rfl
            exact hnodup.1 hother
          rw [List.filter_cons_of_pos (by simpa using hmem),
            List.append_assoc, List.singleton_append]
          congr 2
          apply List.filter_congr
          intro other hother
          simp [hlater other hother]

/-- Entries with new names are added at the end. -/
theorem entries_insertAll (hnodup : (entries.map Prod.fst).Nodup) :
    ((∅ : Registry α).insertAll entries).entries = entries := by
  have hsame : (∅ : Registry α).insertAll entries = ⟨entries, hnodup⟩ := by
    apply eq_of_get?_eq
    · rw [names_insertAll hnodup, names_empty, List.nil_append,
        List.filter_eq_self.mpr (by simp)]
      rfl
    · intro name
      rw [get?_insertAll, lookup_reverse hnodup, get?_empty, Option.or_none]
      rfl
  rw [hsame]

end Distinct

theorem get?_merge (earlier later : Registry α) (name : String) :
    (earlier.merge later).get? name =
      (later.get? name).or (earlier.get? name) := by
  refine (get?_insertAll earlier later.entries name).trans ?_
  rw [lookup_reverse later.nodup]
  rfl

theorem names_merge (earlier later : Registry α) :
    (earlier.merge later).names =
      earlier.names ++ later.names.filter (· ∉ earlier.names) :=
  names_insertAll later.nodup earlier

theorem merge_insert (earlier later : Registry α) (name : String) (value : α) :
    earlier.merge (later.insert name value) =
      (earlier.merge later).insert name value := by
  apply eq_of_get?_eq
  · simp only [names_merge, names_insert, List.mem_append, List.mem_filter,
      decide_eq_true_eq]
    by_cases hlater : name ∈ later.names
    · by_cases hearlier : name ∈ earlier.names
      · simp [hlater, hearlier]
      · simp [hlater, hearlier]
    · by_cases hearlier : name ∈ earlier.names
      · simp [hlater, hearlier]
      · simp [hlater, hearlier]
  · intro other
    simp only [get?_merge, get?_insert]
    split
    · rfl
    · rfl

theorem merge_insertAll (earlier later : Registry α)
    (entries : List (String × α)) :
    earlier.merge (later.insertAll entries) =
      (earlier.merge later).insertAll entries := by
  induction entries generalizing later with
  | nil => rfl
  | cons entry entries ih =>
      obtain ⟨name, value⟩ := entry
      rw [insertAll_cons, insertAll_cons, ih, merge_insert]

end Registry

namespace Collection

/-- The automata of one definition with their names. -/
def numbered (name : String) (automata : List Automaton) :
    List (String × Automaton) :=
  automata.zipIdx.map fun (automaton, index) =>
    (numberedName name index, automaton)

theorem numberedName_injective (name : String) :
    Function.Injective (numberedName name) := by
  intro first second heq
  have hlist := congrArg String.toList heq
  simp only [numberedName] at hlist
  split at hlist
  · next hfirst =>
      split at hlist
      · next hsecond => rw [hfirst, hsecond]
      · simp at hlist
  · split at hlist
    · simp at hlist
    · simp only [String.toList_append, List.append_cancel_left_eq] at hlist
      exact Text.toString_injective (String.toList_injective hlist)

theorem nodup_numbered (name : String) (automata : List Automaton) :
    ((numbered name automata).map Prod.fst).Nodup := by
  have hnames : (numbered name automata).map Prod.fst =
      (automata.zipIdx.map Prod.snd).map (numberedName name) := by
    simp only [numbered, List.map_map]
    rfl
  rw [hnames, List.zipIdx_map_snd]
  exact List.Pairwise.map _
    (fun first second hne heq => hne (numberedName_injective name heq))
    List.nodup_range'

theorem addAutomata_eq (collection : Collection) (name : String)
    (automata : List Automaton) :
    collection.addAutomata name automata =
      { collection with
        automata := collection.automata.insertAll (numbered name automata) } := by
  rw [addAutomata, Registry.insertAll, numbered, List.foldl_map]

def merge (earlier later : Collection) : Collection :=
  ⟨earlier.automata.merge later.automata,
    earlier.grammars.merge later.grammars⟩

@[simp] theorem merge_empty (collection : Collection) :
    collection.merge ∅ = collection := rfl

theorem merge_addAutomata (earlier later : Collection) (name : String)
    (automata : List Automaton) :
    earlier.merge (later.addAutomata name automata) =
      (earlier.merge later).addAutomata name automata := by
  simp only [addAutomata_eq, merge, Registry.merge_insertAll]

theorem merge_addGrammar (earlier later : Collection) (name : String)
    (grammar : Grammar) :
    earlier.merge (later.addGrammar name grammar) =
      (earlier.merge later).addGrammar name grammar := by
  simp only [addGrammar, merge, Registry.merge_insert]

namespace Loaded

/-- What was loaded later goes into what was loaded earlier. -/
def merge (earlier later : Loaded) : Loaded :=
  ⟨earlier.collection.merge later.collection,
    earlier.refusals ++ later.refusals⟩

@[simp] theorem merge_empty (loaded : Loaded) : loaded.merge ⟨∅, []⟩ = loaded := by
  rw [merge, Collection.merge_empty, List.append_nil]

theorem merge_addDefinition (earlier later : Loaded) (definition : Section) :
    earlier.merge (addDefinition later definition) =
      addDefinition (earlier.merge later) definition := by
  simp only [addDefinition]
  split
  · split
    · simp only [merge, merge_addAutomata]
    · simp only [merge, List.append_assoc]
  · split
    · simp only [merge, merge_addGrammar]
    · simp only [merge, List.append_assoc]

/-- Loading a definition is putting what it gives alone into what is there. -/
theorem addDefinition_eq_merge (loaded : Loaded) (definition : Section) :
    addDefinition loaded definition =
      loaded.merge (addDefinition ⟨∅, []⟩ definition) := by
  rw [merge_addDefinition, merge_empty]

end Loaded

end Collection

end RightLinear
