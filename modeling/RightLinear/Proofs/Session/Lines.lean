import RightLinear.Proofs.Automaton.Lines
import RightLinear.Session.Command

/-! Lines and the commands in them.  Words are what blanks keep apart, so every
word can be given in a line, and nothing else can. -/

namespace RightLinear

open Text
open Automaton.Format (IsWord)

theorem isWord_iff {text : String} :
    IsWord text.toList ↔ text ≠ "" ∧ Unbroken text := by
  have hne : text.toList ≠ [] ↔ text ≠ "" := not_congr String.toList_eq_nil_iff
  exact ⟨fun h => ⟨hne.mp h.ne_nil, h.visible⟩, fun h => ⟨hne.mpr h.1, h.2⟩⟩

theorem isWord_of_mem_words {text word : List Char} (h : word ∈ words text) :
    IsWord word := by
  obtain ⟨hpiece, hne⟩ := List.mem_filter.mp h
  exact ⟨by simpa using hne, separates_eq_false_of_mem hpiece⟩

/-- Words with single blanks between them are found again. -/
theorem words_intercalate {texts : List (List Char)}
    (h : ∀ text ∈ texts, IsWord text) : words ([' '].intercalate texts) = texts := by
  induction texts with
  | nil => rfl
  | cons text later ih =>
      obtain ⟨htext, hlater⟩ := List.forall_mem_cons.mp h
      have hsingle := words_single htext.ne_nil htext.visible
      cases later with
      | nil => rwa [List.intercalate_singleton]
      | cons next later =>
          rw [List.intercalate_cons_cons, List.append_assoc,
            List.singleton_append, words_append_cons rfl, hsingle, ih hlater]
          rfl

namespace Command

/-- The names, or the path, that a command is given. -/
def names : Command → List String
  | load path => [path]
  | showAutomaton name => [name]
  | graph name => [name]
  | test name _ => [name]
  | isDeterministic name => [name]
  | determinize name result => [name, result]
  | toGrammar name result => [name, result]
  | showGrammar name => [name]
  | classify name => [name]
  | generate name _ => [name]
  | toAutomaton name result => [name, result]
  | delete name => [name]
  | _ => []

/-- A result without a name of its own is named after its source. -/
theorem isWord_result {name ending : String} {rest : List String}
    (hname : IsWord name.toList)
    (hrest : ∀ argument ∈ rest, IsWord argument.toList)
    (hending : ∀ character ∈ ending.toList, isBlank character = false) :
    IsWord (rest.head?.getD (name ++ ending)).toList := by
  cases rest with
  | cons result rest => exact hrest result List.mem_cons_self
  | nil =>
      change IsWord (name ++ ending).toList
      rw [String.toList_append]
      exact ⟨List.append_ne_nil_of_left_ne_nil hname.ne_nil _,
        List.forall_mem_append.mpr ⟨hname.visible, hending⟩⟩

theorem isWord_names_ofWords (word : String) {arguments : List String}
    (harguments : ∀ argument ∈ arguments, IsWord argument.toList) :
    ∀ name ∈ (ofWords word arguments).names, IsWord name.toList := by
  cases arguments with
  | nil =>
      unfold ofWords
      split
      all_goals exact List.forall_mem_nil _
  | cons name rest =>
      obtain ⟨hname, hrest⟩ := List.forall_mem_cons.mp harguments
      have hone : ∀ other ∈ [name], IsWord other.toList :=
        List.forall_mem_singleton.mpr hname
      have htwo : ∀ ending : String,
          (∀ character ∈ ending.toList, isBlank character = false) →
            ∀ other ∈ [name, rest.head?.getD (name ++ ending)],
              IsWord other.toList := fun ending hending =>
        List.forall_mem_cons.mpr ⟨hname, List.forall_mem_singleton.mpr
          (isWord_result hname hrest hending)⟩
      unfold ofWords
      split
      all_goals first
        | exact List.forall_mem_nil _
        | exact hone
        | exact htwo _ (visible_of_all rfl)

theorem isWord_names_read (line : String) :
    ∀ name ∈ (read line).names, IsWord name.toList := by
  have hwords : ∀ argument ∈ (words line.toList).map String.ofList,
      IsWord argument.toList := by
    rw [List.forall_mem_map]
    intro text htext
    rw [String.toList_ofList]
    exact isWord_of_mem_words htext
  rw [read]
  split
  · exact List.forall_mem_nil _
  · next word arguments hline =>
      rw [hline] at hwords
      exact isWord_names_ofWords _ (List.forall_mem_cons.mp hwords).2

theorem read_intercalate {word : String} {arguments : List String}
    (hword : IsWord word.toList)
    (harguments : ∀ argument ∈ arguments, IsWord argument.toList) :
    read (" ".intercalate (word :: arguments)) =
      ofWords (lowercase word) arguments := by
  have hall : ∀ text ∈ (word :: arguments).map String.toList, IsWord text := by
    rw [List.forall_mem_map]
    exact List.forall_mem_cons.mpr ⟨hword, harguments⟩
  have hblank : " ".toList = [' '] := rfl
  rw [read, String.toList_intercalate, hblank, words_intercalate hall,
    List.map_map, String.ofList_comp_toList, List.map_id]

/-- A word for a command, in small letters. -/
def IsVerb (verb : String) : Prop :=
  verb ≠ "" ∧ Unbroken verb ∧ lowercase verb = verb

instance (verb : String) : Decidable (IsVerb verb) :=
  inferInstanceAs (Decidable (_ ∧ _ ∧ _))

def verbs : List String :=
  ["show", "delete", "show_grammar", "generate", "to_nea", "test"]

theorem isVerb_of_mem : ∀ verb ∈ verbs, IsVerb verb := by decide +kernel

theorem read_verb {verb : String} {arguments : List String}
    (hverb : verb ∈ verbs)
    (harguments : ∀ argument ∈ arguments, IsWord argument.toList) :
    read (" ".intercalate (verb :: arguments)) = ofWords verb arguments := by
  obtain ⟨hne, hunbroken, hsmall⟩ := isVerb_of_mem verb hverb
  rw [read_intercalate (isWord_iff.mpr ⟨hne, hunbroken⟩) harguments, hsmall]

end Command

end RightLinear
