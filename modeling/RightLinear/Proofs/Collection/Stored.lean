import RightLinear.Proofs.Collection.Merge
import RightLinear.Proofs.Traversal

/-! What a text leaves in a collection.  Its definitions are read one by one,
and whatever is read goes into the registries under the names of the
definitions; what is refused leaves nothing. -/

namespace RightLinear

namespace Registry

variable {α : Type}

@[simp] theorem length_names (registry : Registry α) :
    registry.names.length = registry.size :=
  List.length_map _

theorem size_insert_of_not_mem {registry : Registry α} {name : String}
    (h : name ∉ registry.names) (value : α) :
    (registry.insert name value).size = registry.size + 1 := by
  rw [← length_names, names_insert, if_neg h, List.length_append, length_names]
  rfl

theorem size_insert_of_mem {registry : Registry α} {name : String}
    (h : name ∈ registry.names) (value : α) :
    (registry.insert name value).size = registry.size := by
  rw [← length_names, names_insert, if_pos h, length_names]

theorem size_insertAll_le (registry : Registry α)
    (entries : List (String × α)) :
    (registry.insertAll entries).size ≤ registry.size + entries.length := by
  induction entries generalizing registry with
  | nil => exact Nat.le_refl _
  | cons entry entries ih =>
      have hlater := ih (registry.insert entry.1 entry.2)
      rw [insertAll_cons, List.length_cons]
      by_cases hmem : entry.1 ∈ registry.names
      · rw [size_insert_of_mem hmem] at hlater
        omega
      · rw [size_insert_of_not_mem hmem] at hlater
        omega

/-- Nothing is replaced exactly if no name is given twice. -/
theorem size_insertAll_eq_iff {registry : Registry α}
    {entries : List (String × α)} :
    (registry.insertAll entries).size = registry.size + entries.length ↔
      (registry.names ++ entries.map Prod.fst).Nodup := by
  induction entries generalizing registry with
  | nil =>
      rw [List.map_nil, List.append_nil]
      exact iff_of_true rfl registry.nodup
  | cons entry entries ih =>
      obtain ⟨name, value⟩ := entry
      rw [insertAll_cons, List.length_cons, List.map_cons]
      by_cases hmem : name ∈ registry.names
      · have hle := size_insertAll_le (registry.insert name value) entries
        rw [size_insert_of_mem hmem] at hle
        refine iff_of_false (by omega) fun hnodup => ?_
        exact (List.nodup_append.mp hnodup).2.2 name hmem name
          List.mem_cons_self rfl
      · have hstep := @ih (registry.insert name value)
        rw [size_insert_of_not_mem hmem, names_insert, if_neg hmem,
          List.append_assoc, List.singleton_append] at hstep
        rw [← hstep]
        omega

end Registry

namespace Collection

/-- The automata that are read from a definition. -/
def automataOf (definition : Section) : List Automaton :=
  if looksLikeAutomaton definition.body then
    (Automaton.readAll (String.ofList definition.body)).toOption.getD []
  else []

/-- The grammar that is read from a definition. -/
def grammarOf? (definition : Section) : Option Grammar :=
  if looksLikeAutomaton definition.body then none
  else (Grammar.read (String.ofList definition.body)).toOption

theorem readAll_of_mem_automataOf {definition : Section} {automaton : Automaton}
    (h : automaton ∈ automataOf definition) :
    ∃ automata, Automaton.readAll (String.ofList definition.body) = .ok automata ∧
      automaton ∈ automata := by
  rw [automataOf] at h
  split at h
  · cases hread : Automaton.readAll (String.ofList definition.body) with
    | error error =>
        rw [hread] at h
        contradiction
    | ok automata =>
        rw [hread] at h
        exact ⟨automata, rfl, h⟩
  · contradiction

theorem read_of_grammarOf? {definition : Section} {grammar : Grammar}
    (h : grammarOf? definition = some grammar) :
    Grammar.read (String.ofList definition.body) = .ok grammar := by
  rw [grammarOf?] at h
  split at h
  · contradiction
  · exact eq_ok_of_toOption h

/-- The automata of a definition under the names they are stored by. -/
def automatonEntries (definition : Section) : List (String × Automaton) :=
  numbered definition.name (automataOf definition)

def grammarEntries (definition : Section) : List (String × Grammar) :=
  (grammarOf? definition).toList.map fun grammar => (definition.name, grammar)

/-- What is added to a name to tell blocks apart. -/
theorem exists_digits (name : String) (index : Nat) :
    ∃ digits : List Char, (∀ digit ∈ digits, digit.isDigit = true) ∧
      (numberedName name index).toList = name.toList ++ digits := by
  unfold numberedName
  split
  · exact ⟨[], List.forall_mem_nil _, (List.append_nil _).symm⟩
  · refine ⟨Nat.toDigits 10 index, fun digit hdigit =>
      Nat.isDigit_of_mem_toDigits (by decide) (by decide) hdigit, ?_⟩
    rw [String.toList_append, Nat.toString_eq_repr, Nat.toList_repr]

theorem automata_addDefinition (loaded : Loaded) (definition : Section) :
    (addDefinition loaded definition).collection.automata =
      loaded.collection.automata.insertAll (automatonEntries definition) := by
  rw [automatonEntries, automataOf, addDefinition]
  split
  · split
    · next hread =>
        simp only [addAutomata_eq, hread]
        rfl
    · next hread =>
        rw [hread]
        rfl
  · split
    · rfl
    · rfl

theorem grammars_addDefinition (loaded : Loaded) (definition : Section) :
    (addDefinition loaded definition).collection.grammars =
      loaded.collection.grammars.insertAll (grammarEntries definition) := by
  rw [grammarEntries, grammarOf?, addDefinition]
  split
  · split
    · rfl
    · rfl
  · split
    · next hread =>
        rw [hread]
        rfl
    · next hread =>
        rw [hread]
        rfl

/-- By induction on the definitions, for either kind of registry. -/
theorem stored_foldl {α : Type} (stored : Loaded → Registry α)
    {entries : Section → List (String × α)}
    (hstep : ∀ loaded definition, stored (addDefinition loaded definition) =
      (stored loaded).insertAll (entries definition))
    (definitions : List Section) (loaded : Loaded) :
    stored (definitions.foldl addDefinition loaded) =
      (stored loaded).insertAll (definitions.flatMap entries) := by
  induction definitions generalizing loaded with
  | nil => rfl
  | cons definition definitions ih =>
      rw [List.foldl_cons, ih, hstep, List.flatMap_cons,
        Registry.insertAll_append]

theorem automata_load (text name : String) :
    (load text name).collection.automata =
      (∅ : Registry Automaton).insertAll
        ((definitions text.toList name).flatMap automatonEntries) :=
  stored_foldl (·.collection.automata) automata_addDefinition _ _

theorem grammars_load (text name : String) :
    (load text name).collection.grammars =
      (∅ : Registry Grammar).insertAll
        ((definitions text.toList name).flatMap grammarEntries) :=
  stored_foldl (·.collection.grammars) grammars_addDefinition _ _

end Collection

end RightLinear
