import RightLinear.Proofs.Collection.Entries
import RightLinear.Proofs.Session.Outcome

/-! The sessions that commands lead to.  Something that loading and converting
keep up holds for everything that is stored in any of them. -/

namespace RightLinear.Session

variable {φ ε σ : Type} [Surroundings φ ε] [RandomSource σ]

/-- The session after some commands, each with the surroundings that it
finds. -/
def after (commands : List (φ × String)) (source : σ) : Session σ :=
  commands.foldl
    (fun session (around, line) =>
      (session.execute around line).2)
    { source := source }

theorem after_concat (commands : List (φ × String)) (around : φ)
    (line : String) (source : σ) :
    after (commands ++ [(around, line)]) source =
      ((after commands source).execute around line).2 :=
  List.foldl_concat _ _ _ _

/-- What keeps a property of the stored items: files bring in only such items,
and conversions make such items out of such items. -/
structure Keeps (ofAutomaton : String → Automaton → Prop)
    (ofGrammar : String → Grammar → Prop) (files : FileSystem)
    (command : Command) : Prop where
  load : ∀ {path : String} {found : Collection.Loaded},
    command = .load path → Collection.loadFile files path = .ok found →
      found.collection.All ofAutomaton ofGrammar
  determinized : ∀ {name result : String} {automaton : Automaton},
    command = .determinize name result → ofAutomaton name automaton →
      ofAutomaton result automaton.determinized
  grammar : ∀ {name result : String} {automaton : Automaton},
    command = .toGrammar name result → ofAutomaton name automaton →
      ofGrammar result automaton.grammar
  recognizer : ∀ {name result : String} {grammar : Grammar}
    (hlinear : grammar.IsRightLinear),
    command = .toAutomaton name result → ofGrammar name grammar →
      ofAutomaton result (grammar.recognizer hlinear)

variable {ofAutomaton : String → Automaton → Prop}
  {ofGrammar : String → Grammar → Prop}

/-- One case for each kind of outcome. -/
theorem Outcome.all {around : φ} {session later : Session σ}
    {command : Command} {answer : Except (Failure ε) Bool}
    (houtcome : Outcome around session command answer later)
    (hkeeps : Keeps ofAutomaton ofGrammar (Surroundings.files around)
      command)
    (h : session.collection.All ofAutomaton ofGrammar) :
    later.collection.All ofAutomaton ofGrammar := by
  cases houtcome with
  | unreadable _ => exact h
  | uncountable _ => exact h
  | unconvertible _ _ => exact h
  | undrawable _ _ => exact h
  | left => exact h
  | shown _ hlater => rwa [hlater.collection_eq]
  | loaded hload hlater =>
      rw [hlater.collection_eq]
      exact h.merge (hkeeps.load rfl hload)
  | generated _ hlater => rwa [hlater.collection_eq]
  | determinized hstored hlater =>
      rw [hlater.collection_eq]
      have hautomaton := h.automata _ _ hstored
      exact ⟨h.automata.insert (hkeeps.determinized rfl hautomaton), h.grammars⟩
  | grammar hstored hlater =>
      rw [hlater.collection_eq]
      have hautomaton := h.automata _ _ hstored
      exact ⟨h.automata, h.grammars.insert (hkeeps.grammar rfl hautomaton)⟩
  | recognizer hlinear hstored hlater =>
      rw [hlater.collection_eq]
      have hgrammar := h.grammars _ _ hstored
      exact ⟨h.automata.insert (hkeeps.recognizer hlinear rfl hgrammar),
        h.grammars⟩
  | automatonDeleted _ hlater =>
      rw [hlater.collection_eq]
      exact ⟨h.automata.erase _, h.grammars⟩
  | grammarDeleted _ _ hlater =>
      rw [hlater.collection_eq]
      exact ⟨h.automata, h.grammars.erase _⟩
  | cleared hlater =>
      rw [hlater.collection_eq]
      exact Collection.all_empty

/-- By induction on the commands, the last one first. -/
theorem all_after {commands : List (φ × String)}
    (hkeeps : ∀ command ∈ commands,
      Keeps ofAutomaton ofGrammar (Surroundings.files command.1)
        (Command.read command.2))
    (source : σ) :
    (after commands source).collection.All ofAutomaton ofGrammar := by
  induction commands using List.reverseRecOn with
  | nil => exact Collection.all_empty
  | append_singleton commands command ih =>
      obtain ⟨around, line⟩ := command
      rw [after_concat]
      refine (outcome_execute around line _).all
        (hkeeps (around, line) ?_) ?_
      · exact List.mem_append_right _ (List.mem_singleton_self _)
      · exact ih fun command hcommand =>
          hkeeps command (List.mem_append_left _ hcommand)

end RightLinear.Session
