import RightLinear.Proofs.Collection.Stored

/-! Properties of everything that is stored.  A property of the entries goes
through every change: an entry after it was there before, or has come with
it. -/

namespace RightLinear

namespace Registry

variable {α : Type}

/-- Every value has the property together with its name. -/
def All (property : String → α → Prop) (registry : Registry α) : Prop :=
  ∀ name value, registry.get? name = some value → property name value

theorem mem_names_iff {registry : Registry α} {name : String} :
    name ∈ registry.names ↔ ∃ value, registry.get? name = some value := by
  simp only [names, get?_eq_some_iff, List.mem_map, Prod.exists,
    exists_and_right, exists_eq_right]

/-- What holds for the names of all entries holds for all names. -/
theorem All.of_mem_names {property : String → Prop} {registry : Registry α}
    (h : registry.All fun name _ => property name) {name : String}
    (hname : name ∈ registry.names) : property name := by
  obtain ⟨value, hstored⟩ := mem_names_iff.mp hname
  exact h name value hstored

section Changes

variable {property : String → α → Prop} {registry : Registry α}

theorem all_empty : (∅ : Registry α).All property := by
  intro name value hstored
  contradiction

theorem All.insert (h : registry.All property) {name : String} {value : α}
    (hvalue : property name value) : (registry.insert name value).All property := by
  intro other found hfound
  rw [get?_insert] at hfound
  split at hfound
  · next hname =>
      cases hfound
      rwa [hname]
  · exact h other found hfound

theorem All.insertAll (h : registry.All property) {entries : List (String × α)}
    (hentries : ∀ entry ∈ entries, property entry.1 entry.2) :
    (registry.insertAll entries).All property := by
  induction entries generalizing registry with
  | nil => exact h
  | cons entry entries ih =>
      obtain ⟨hentry, hlater⟩ := List.forall_mem_cons.mp hentries
      exact ih (h.insert hentry) hlater

theorem All.merge (h : registry.All property) {later : Registry α}
    (hlater : later.All property) : (registry.merge later).All property := by
  intro name value hstored
  rw [get?_merge, Option.or_eq_some_iff] at hstored
  rcases hstored with hlatest | ⟨-, hearlier⟩
  · exact hlater name value hlatest
  · exact h name value hearlier

theorem All.erase (h : registry.All property) (name : String) :
    (registry.erase name).All property := by
  intro other value hstored
  rw [get?_eq_some_iff] at hstored
  exact h other value (get?_eq_some_iff.mpr (List.mem_filter.mp hstored).1)

end Changes

end Registry

namespace Collection

/-- Every automaton and every grammar has the property together with its
name. -/
structure All (ofAutomaton : String → Automaton → Prop)
    (ofGrammar : String → Grammar → Prop) (collection : Collection) : Prop where
  automata : collection.automata.All ofAutomaton
  grammars : collection.grammars.All ofGrammar

variable {ofAutomaton : String → Automaton → Prop}
  {ofGrammar : String → Grammar → Prop}

theorem all_empty : (∅ : Collection).All ofAutomaton ofGrammar :=
  ⟨Registry.all_empty, Registry.all_empty⟩

theorem All.merge {earlier later : Collection}
    (h : earlier.All ofAutomaton ofGrammar)
    (hlater : later.All ofAutomaton ofGrammar) :
    (earlier.merge later).All ofAutomaton ofGrammar :=
  ⟨h.automata.merge hlater.automata, h.grammars.merge hlater.grammars⟩

theorem loadFile_eq_ok {files : FileSystem} {path : String}
    {found : Loaded}
    (h : loadFile files path = .ok found) :
    ∃ text, files.text path = .ok text ∧ load text (fileStem path) = found := by
  rw [loadFile] at h
  cases htext : files.text path with
  | error error =>
      rw [htext] at h
      contradiction
  | ok text =>
      rw [htext] at h
      exact ⟨text, rfl, Except.ok.inj h⟩

/-- What a text leaves comes from one of its definitions. -/
theorem all_load {text name : String}
    (hautomata : ∀ definition ∈ definitions text.toList name,
      ∀ automaton ∈ automataOf definition, ∀ index,
        ofAutomaton (numberedName definition.name index) automaton)
    (hgrammars : ∀ definition ∈ definitions text.toList name,
      ∀ grammar, grammarOf? definition = some grammar →
        ofGrammar definition.name grammar) :
    (load text name).collection.All ofAutomaton ofGrammar := by
  constructor
  · rw [automata_load]
    refine Registry.all_empty.insertAll fun entry hentry => ?_
    obtain ⟨definition, hdefinition, hentry⟩ := List.mem_flatMap.mp hentry
    obtain ⟨⟨automaton, index⟩, hblock, rfl⟩ := List.mem_map.mp hentry
    exact hautomata definition hdefinition automaton
      (List.fst_mem_of_mem_zipIdx hblock) index
  · rw [grammars_load]
    refine Registry.all_empty.insertAll fun entry hentry => ?_
    obtain ⟨definition, hdefinition, hentry⟩ := List.mem_flatMap.mp hentry
    obtain ⟨grammar, hgrammar, rfl⟩ := List.mem_map.mp hentry
    exact hgrammars definition hdefinition grammar
      (Option.mem_toList.mp hgrammar)

end Collection

end RightLinear
