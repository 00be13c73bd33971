import RightLinear.Proofs.Collection.Changes
import RightLinear.Proofs.Session.Names

/-! What commands leave alone.  A conversion writes one entry of one registry,
deleting takes one entry away, loading puts entries over those that are there,
and nothing else but clearing changes what is stored; only generating draws from
the source. -/

namespace RightLinear

open Text

namespace Command

/-- The commands that can change what is stored: those that load or clear, and
those that convert or delete something that is there. -/
def Changes (collection : Collection) : Command → Prop
  | load _ => True
  | determinize name _ => name ∈ collection.automata.names
  | toGrammar name _ => name ∈ collection.automata.names
  | toAutomaton name _ => name ∈ collection.grammars.names
  | delete name =>
      name ∈ collection.automata.names ∨ name ∈ collection.grammars.names
  | clear => True
  | _ => False

/-- A word alone is no command about an item. -/
theorem not_changes_ofWords (collection : Collection) {word : String}
    (hword : word ≠ "clear") : ¬ Changes collection (ofWords word []) := by
  unfold ofWords
  split
  -- The word that clears; all others show something or ask for arguments.
  case h_17 => contradiction
  all_goals exact id

theorem ofWords_eq_exit_iff {word : String} {arguments : List String} :
    ofWords word arguments = .exit ↔ word = "exit" ∨ word = "quit" := by
  constructor
  · intro h
    cases arguments
    all_goals
      unfold ofWords at h
      split at h
      case h_1 => exact .inl rfl
      case h_2 => exact .inr rfl
      all_goals contradiction
  · rintro (rfl | rfl)
    · rfl
    · rfl

/-- The words of a line. -/
def wordsOf (line : String) : List String := (words line.toList).map String.ofList

theorem read_of_wordsOf {line word : String} {arguments : List String}
    (h : wordsOf line = word :: arguments) :
    read line = ofWords (lowercase word) arguments := by
  rw [wordsOf] at h
  rw [read, h]

theorem read_eq_exit_iff {line : String} :
    read line = .exit ↔ ∃ word arguments, wordsOf line = word :: arguments ∧
      (lowercase word = "exit" ∨ lowercase word = "quit") := by
  cases hwords : wordsOf line with
  | nil =>
      rw [wordsOf] at hwords
      rw [read, hwords]
      simp
  | cons word arguments =>
      rw [read_of_wordsOf hwords, ofWords_eq_exit_iff]
      constructor
      · exact fun h => ⟨word, arguments, rfl, h⟩
      · rintro ⟨_, _, heq, h⟩
        cases heq
        exact h

end Command

namespace Session

variable {φ ε σ : Type} [Surroundings φ ε] [RandomSource σ] {around : φ}
  {line : String} {session later : Session σ} {command : Command}
  {answer : Except (Failure ε) Bool}

section Outcomes

theorem Outcome.collection_eq (h : Outcome around session command answer later)
    (hcommand : ¬ command.Changes session.collection) :
    later.collection = session.collection := by
  cases h with
  | unreadable _ => rfl
  | uncountable _ => rfl
  | unconvertible _ _ => rfl
  | undrawable _ _ => rfl
  | left => rfl
  | shown _ hlater => exact hlater.collection_eq
  | loaded _ _ => exact absurd trivial hcommand
  | generated _ hlater => exact hlater.collection_eq
  | determinized hstored _ =>
      exact absurd (Registry.mem_names_iff.mpr ⟨_, hstored⟩) hcommand
  | grammar hstored _ =>
      exact absurd (Registry.mem_names_iff.mpr ⟨_, hstored⟩) hcommand
  | recognizer _ hstored _ =>
      exact absurd (Registry.mem_names_iff.mpr ⟨_, hstored⟩) hcommand
  | automatonDeleted hstored _ =>
      exact absurd (.inl (Registry.mem_names_iff.mpr ⟨_, hstored⟩)) hcommand
  | grammarDeleted _ hstored _ =>
      exact absurd (.inr (Registry.mem_names_iff.mpr ⟨_, hstored⟩)) hcommand
  | cleared _ => exact absurd trivial hcommand

theorem Outcome.source_eq (h : Outcome around session command answer later)
    (hcommand : ∀ name count, command ≠ .generate name count) :
    later.source = session.source := by
  cases h with
  | unreadable _ => rfl
  | uncountable _ => rfl
  | unconvertible _ _ => rfl
  | undrawable _ _ => rfl
  | left => rfl
  | shown _ hlater => exact hlater.source_eq
  | loaded _ hlater => exact hlater.source_eq
  | generated _ _ => exact absurd rfl (hcommand _ _)
  | determinized _ hlater => exact hlater.source_eq
  | grammar _ hlater => exact hlater.source_eq
  | recognizer _ _ hlater => exact hlater.source_eq
  | automatonDeleted _ hlater => exact hlater.source_eq
  | grammarDeleted _ _ hlater => exact hlater.source_eq
  | cleared hlater => exact hlater.source_eq

theorem Outcome.ends_iff (h : Outcome around session command answer later) :
    answer = .ok false ↔ command = .exit := by
  cases h with
  | left => exact iff_of_true rfl rfl
  | shown hcommand _ => exact iff_of_false (by nofun) hcommand
  | unreadable _ => exact iff_of_false (by nofun) (by nofun)
  | uncountable _ => exact iff_of_false (by nofun) (by nofun)
  | unconvertible _ _ => exact iff_of_false (by nofun) (by nofun)
  | undrawable _ _ => exact iff_of_false (by nofun) (by nofun)
  | loaded _ _ => exact iff_of_false (by nofun) (by nofun)
  | generated _ _ => exact iff_of_false (by nofun) (by nofun)
  | determinized _ _ => exact iff_of_false (by nofun) (by nofun)
  | grammar _ _ => exact iff_of_false (by nofun) (by nofun)
  | recognizer _ _ _ => exact iff_of_false (by nofun) (by nofun)
  | automatonDeleted _ _ => exact iff_of_false (by nofun) (by nofun)
  | grammarDeleted _ _ _ => exact iff_of_false (by nofun) (by nofun)
  | cleared _ => exact iff_of_false (by nofun) (by nofun)

/-- A conversion to an automaton. -/
theorem Outcome.automata_sameBut {name result : String}
    (h : Outcome around session command answer later)
    (hcommand : command = .determinize name result ∨
      command = .toAutomaton name result) :
    session.collection.automata.SameBut result later.collection.automata ∧
      later.collection.grammars = session.collection.grammars := by
  cases h with
  | unconvertible _ _ => exact ⟨rfl, rfl⟩
  | shown _ hlater =>
      rw [hlater.collection_eq]
      exact ⟨rfl, rfl⟩
  | determinized _ hlater =>
      obtain ⟨⟨⟩⟩ | ⟨⟨⟩⟩ := hcommand
      rw [hlater.collection_eq]
      exact ⟨Registry.sameBut_insert _ _ _, rfl⟩
  | recognizer _ _ hlater =>
      obtain ⟨⟨⟩⟩ | ⟨⟨⟩⟩ := hcommand
      rw [hlater.collection_eq]
      exact ⟨Registry.sameBut_insert _ _ _, rfl⟩
  | _ => obtain ⟨⟨⟩⟩ | ⟨⟨⟩⟩ := hcommand

theorem Outcome.grammars_sameBut {name result : String}
    (h : Outcome around session (.toGrammar name result) answer later) :
    session.collection.grammars.SameBut result later.collection.grammars ∧
      later.collection.automata = session.collection.automata := by
  cases h with
  | shown _ hlater =>
      rw [hlater.collection_eq]
      exact ⟨rfl, rfl⟩
  | grammar _ hlater =>
      rw [hlater.collection_eq]
      exact ⟨Registry.sameBut_insert _ _ _, rfl⟩

end Outcomes

section Deleting

variable {name : String}

/-- An automaton goes first, and a grammar of its name stays. -/
theorem collection_delete_automaton (hline : Command.read line = .delete name)
    (hstored : name ∈ session.collection.automata.names) :
    (session.execute around line).2.collection =
      { session.collection with
        automata := session.collection.automata.erase name } := by
  obtain ⟨automaton, hautomaton⟩ := Registry.mem_names_iff.mp hstored
  rw [execute_eq, hline, run,
    perform_bind_ok (perform_delete_automaton hautomaton)]
  rfl

/-- Without an automaton of that name its grammar goes, if there is one. -/
theorem collection_delete_grammar (hline : Command.read line = .delete name)
    (hnone : name ∉ session.collection.automata.names) :
    (session.execute around line).2.collection =
      { session.collection with
        grammars := session.collection.grammars.erase name } := by
  rw [Registry.not_mem_names_iff] at hnone
  cases hgrammar : session.collection.grammars.get? name with
  | some grammar =>
      rw [execute_eq, hline, run,
        perform_bind_ok (perform_delete_grammar hnone hgrammar)]
      rfl
  | none =>
      rw [execute_eq, hline, run,
        perform_bind_ok (perform_delete_none hnone hgrammar),
        Registry.erase_of_get?_eq_none hgrammar]
      rfl

/-- The same line a second time takes the grammar away. -/
theorem collection_delete_twice (others : φ)
    (hline : Command.read line = .delete name)
    (hstored : name ∈ session.collection.automata.names) :
    ((session.execute around line).2.execute others line).2.collection =
      ⟨session.collection.automata.erase name,
        session.collection.grammars.erase name⟩ := by
  have hgone : name ∉
      (session.execute around line).2.collection.automata.names := by
    rw [collection_delete_automaton hline hstored]
    exact Registry.not_mem_names_erase _ name
  rw [collection_delete_grammar hline hgone,
    collection_delete_automaton hline hstored]

end Deleting

section Loading

variable {path : String}

theorem collection_load {found : Collection.Loaded}
    (hline : Command.read line = .load path)
    (hload : Collection.loadFile (Surroundings.files around) path =
      .ok found) :
    (session.execute around line).2.collection =
      session.collection.merge found.collection := by
  rw [execute_eq, hline, run, perform_bind_ok (perform_load hload)]
  rfl

theorem collection_load_error {error : FileError}
    (hline : Command.read line = .load path)
    (hload : Collection.loadFile (Surroundings.files around) path =
      .error error) :
    (session.execute around line).2.collection = session.collection := by
  rw [execute_eq, hline, run, perform_bind_error (perform_load_error hload)]

end Loading

/-- What running a line may do to a session. -/
structure TouchesNamed (around : φ) (line : String)
    (session : Session σ) (answer : Except (Failure ε) Bool)
    (later : Session σ) : Prop where
  /-- Only the result of a conversion is written, and what is converted stays
  unless the result goes into its place. -/
  automaton_made : ∀ name result,
    Command.read line = .determinize name result ∨
        Command.read line = .toAutomaton name result →
      session.collection.automata.SameBut result later.collection.automata ∧
        later.collection.grammars = session.collection.grammars
  grammar_made : ∀ name result, Command.read line = .toGrammar name result →
    session.collection.grammars.SameBut result later.collection.grammars ∧
      later.collection.automata = session.collection.automata
  converted_kept : ∀ name result,
    Command.read line = .determinize name result → name ≠ result →
      later.collection.automata.get? name =
        session.collection.automata.get? name
  automaton_deleted : ∀ name, Command.read line = .delete name →
    name ∈ session.collection.automata.names →
      later.collection =
        { session.collection with
          automata := session.collection.automata.erase name }
  grammar_deleted : ∀ name, Command.read line = .delete name →
    name ∉ session.collection.automata.names →
      later.collection =
        { session.collection with
          grammars := session.collection.grammars.erase name }
  /-- A name that both have is gone after the second time. -/
  both_deleted : ∀ name, Command.read line = .delete name →
    name ∈ session.collection.automata.names →
      name ∈ session.collection.grammars.names →
        name ∈ later.collection.grammars.names ∧
          ∀ others : φ, (later.execute others line).2.collection =
            ⟨session.collection.automata.erase name,
              session.collection.grammars.erase name⟩
  loaded : ∀ path found, Command.read line = .load path →
    Collection.loadFile (Surroundings.files around) path = .ok found →
      found.collection.automata.WrittenOver session.collection.automata
          later.collection.automata ∧
        found.collection.grammars.WrittenOver session.collection.grammars
          later.collection.grammars
  unreadable : ∀ path error, Command.read line = .load path →
    Collection.loadFile (Surroundings.files around) path =
        .error error →
      later.collection = session.collection
  unchanged : ¬ (Command.read line).Changes session.collection →
    later.collection = session.collection
  /-- A line of one word is a command without its arguments, unless there are
  none to give. -/
  unfinished : ∀ word, Command.wordsOf line = [word] →
    Text.lowercase word ≠ "clear" → later.collection = session.collection
  source_kept : (∀ name count, Command.read line ≠ .generate name count) →
    later.source = session.source
  ends_iff : answer = .ok false ↔
    ∃ word arguments, Command.wordsOf line = word :: arguments ∧
      (Text.lowercase word = "exit" ∨ Text.lowercase word = "quit")

/-- Of every session, whether commands lead to it or not. -/
theorem execute_touches_named (around : φ) (line : String)
    (session : Session σ) :
    TouchesNamed around line session (session.execute around line).1
      (session.execute around line).2 := by
  have houtcome := outcome_execute around line session
  constructor
  case automaton_made => exact fun _ _ => houtcome.automata_sameBut
  case grammar_made =>
    intro name result hline
    rw [hline] at houtcome
    exact houtcome.grammars_sameBut
  case converted_kept =>
    intro name result hline hne
    exact (houtcome.automata_sameBut (.inl hline)).1.get?_eq hne
  case automaton_deleted => exact fun _ => collection_delete_automaton
  case grammar_deleted => exact fun _ => collection_delete_grammar
  case both_deleted =>
    intro name hline hautomata hgrammars
    refine ⟨?_, fun others => collection_delete_twice others hline hautomata⟩
    rw [collection_delete_automaton hline hautomata]
    exact hgrammars
  case loaded =>
    intro path found hline hload
    rw [collection_load hline hload]
    exact ⟨Registry.writtenOver_merge _ _, Registry.writtenOver_merge _ _⟩
  case unreadable => exact fun _ _ => collection_load_error
  case unchanged => exact houtcome.collection_eq
  case unfinished =>
    intro word hwords hword
    apply houtcome.collection_eq
    rw [Command.read_of_wordsOf hwords]
    exact Command.not_changes_ofWords _ hword
  case source_kept => exact houtcome.source_eq
  case ends_iff => exact houtcome.ends_iff.trans Command.read_eq_exit_iff

/-- A session with an automaton and a grammar of one name. -/
def sharedName : Session Congruential :=
  after [(machineFiles, "load machine.txt"),
    (machineFiles, "to_grammar machine machine")] (Congruential.ofSeed 7)

theorem sharedName_deleted_twice :
    sharedName.collection.automata.names = ["machine"] ∧
      sharedName.collection.grammars.names = ["machine"] ∧
      "machine" ∈ (sharedName.execute machineFiles
        "delete machine").2.collection.grammars.names ∧
      ((sharedName.execute machineFiles "delete machine").2.execute
        machineFiles "delete machine").2.collection = ⟨∅, ∅⟩ := by
  have hautomata : sharedName.collection.automata.names = ["machine"] := by
    decide +kernel
  have hgrammars : sharedName.collection.grammars.names = ["machine"] := by
    decide +kernel
  obtain ⟨hstays, hgone⟩ :=
    (execute_touches_named machineFiles "delete machine"
      sharedName).both_deleted "machine" (by decide +kernel)
        (hautomata ▸ List.mem_cons_self) (hgrammars ▸ List.mem_cons_self)
  refine ⟨hautomata, hgrammars, hstays, (hgone machineFiles).trans ?_⟩
  decide +kernel

end Session

end RightLinear
