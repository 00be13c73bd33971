import RightLinear.Proofs.Collection.Merge
import RightLinear.Proofs.Conversion.ToAutomaton
import RightLinear.Proofs.Conversion.ToGrammar
import RightLinear.Proofs.Session.Actions
import RightLinear.Proofs.Subset.Powerset

/-! What commands do.  Every command has one of a few outcomes: it fails before
it has done anything, it ends the session, it only shows something, or it makes
one change to the collection or to the source.  What sessions keep is read off
the outcomes. -/

namespace RightLinear.Session

variable {φ ε σ : Type}

/-- What there is besides the transcript. -/
structure Holds (session : Session σ) (collection : Collection) (source : σ) :
    Prop where
  collection_eq : session.collection = collection
  source_eq : session.source = source

theorem holds_print (session : Session σ) (text : String) :
    (session.print text).Holds session.collection session.source :=
  ⟨rfl, rfl⟩

variable [Surroundings φ ε] [RandomSource σ]

/-- The answer to a command, and the session after it. -/
inductive Outcome (around : φ) (session : Session σ) :
    Command → Except (Failure ε) Bool → Session σ → Prop
  | unreadable {path : String} {error : FileError}
      (hload : Collection.loadFile (Surroundings.files around) path =
        .error error) :
      Outcome around session (.load path) (.error (.file error)) session
  | uncountable {name text : String} {error : Text.NumeralError}
      (hread : Text.readInteger text = .error error) :
      Outcome around session (.generate name (some text))
        (.error (.numeral error)) session
  | unconvertible {name result : String} {grammar : Grammar}
      {error : Grammar.ConversionError}
      (hstored : session.collection.grammars.get? name = some grammar)
      (hconvert : grammar.toAutomaton = .error error) :
      Outcome around session (.toAutomaton name result)
        (.error (.conversion error)) session
  | undrawable {name : String} {automaton : Automaton} {error : ε}
      (hstored : session.collection.automata.get? name = some automaton)
      (hdraw : Surroundings.draw around
        (automaton.rendering name true) = .error error) :
      Outcome around session (.graph name) (.error (.drawing error))
        session
  | left : Outcome around session .exit (.ok false) session
  | shown {command : Command} {later : Session σ} (hcommand : command ≠ .exit)
      (hlater : later.Holds session.collection session.source) :
      Outcome around session command (.ok true) later
  | loaded {path : String} {found : Collection.Loaded} {later : Session σ}
      (hload : Collection.loadFile (Surroundings.files around) path =
        .ok found)
      (hlater : later.Holds (session.collection.merge found.collection)
        session.source) :
      Outcome around session (.load path) (.ok true) later
  | generated {name : String} {count : Option String} {number : Int}
      {grammar : Grammar} {later : Session σ}
      (hstored : session.collection.grammars.get? name = some grammar)
      (hlater : later.Holds session.collection
        (grammar.generateMany number Grammar.usualAttempts session.source).2) :
      Outcome around session (.generate name count) (.ok true) later
  | determinized {name result : String} {automaton : Automaton}
      {later : Session σ}
      (hstored : session.collection.automata.get? name = some automaton)
      (hlater : later.Holds
        { session.collection with
          automata := session.collection.automata.insert result
            automaton.determinized }
        session.source) :
      Outcome around session (.determinize name result) (.ok true) later
  | grammar {name result : String} {automaton : Automaton} {later : Session σ}
      (hstored : session.collection.automata.get? name = some automaton)
      (hlater : later.Holds
        { session.collection with
          grammars := session.collection.grammars.insert result
            automaton.grammar }
        session.source) :
      Outcome around session (.toGrammar name result) (.ok true) later
  | recognizer {name result : String} {grammar : Grammar}
      (hlinear : grammar.IsRightLinear) {later : Session σ}
      (hstored : session.collection.grammars.get? name = some grammar)
      (hlater : later.Holds
        { session.collection with
          automata := session.collection.automata.insert result
            (grammar.recognizer hlinear) }
        session.source) :
      Outcome around session (.toAutomaton name result) (.ok true) later
  | automatonDeleted {name : String} {automaton : Automaton}
      {later : Session σ}
      (hstored : session.collection.automata.get? name = some automaton)
      (hlater : later.Holds
        { session.collection with
          automata := session.collection.automata.erase name }
        session.source) :
      Outcome around session (.delete name) (.ok true) later
  | grammarDeleted {name : String} {grammar : Grammar} {later : Session σ}
      (hnone : session.collection.automata.get? name = none)
      (hstored : session.collection.grammars.get? name = some grammar)
      (hlater : later.Holds
        { session.collection with
          grammars := session.collection.grammars.erase name }
        session.source) :
      Outcome around session (.delete name) (.ok true) later
  | cleared {later : Session σ} (hlater : later.Holds ∅ session.source) :
      Outcome around session .clear (.ok true) later

/-- The outcome of an action that is done for a command. -/
def Ends (around : φ) (session : Session σ) (command : Command)
    (act : Action ε σ Bool) : Prop :=
  Outcome around session command (perform act session).1
    (perform act session).2

section Commands

variable {around : φ} {session : Session σ} {command : Command}

theorem Ends.of_eq {act : Action ε σ Bool} {answer : Except (Failure ε) Bool}
    {later : Session σ} (h : perform act session = (answer, later))
    (houtcome : Outcome around session command answer later) :
    Ends around session command act := by
  rw [Ends, h]
  exact houtcome

theorem ends_shown (hcommand : command ≠ .exit) {act : Action ε σ Unit}
    {later : Session σ} (h : perform act session = (.ok (), later))
    (hlater : later.Holds session.collection session.source) :
    Ends around session command (do act; return true) :=
  .of_eq (perform_bind_ok h) (.shown hcommand hlater)

theorem ends_printLine (hcommand : command ≠ .exit) (text : String) :
    Ends around session command (do printLine text; return true) :=
  ends_shown hcommand (perform_printLine text) (holds_print session _)

theorem ends_withAutomaton (hcommand : command ≠ .exit) {name : String}
    {act : Automaton → Action ε σ Unit}
    (hact : ∀ automaton,
      session.collection.automata.get? name = some automaton →
        Ends around session command (do act automaton; return true)) :
    Ends around session command
      (do withAutomaton name act; return true) := by
  cases hstored : session.collection.automata.get? name with
  | none =>
      exact ends_shown hcommand (perform_withAutomaton_none hstored act)
        (holds_print session _)
  | some automaton =>
      have hends := hact automaton hstored
      rw [Ends, perform_bind] at hends
      rwa [Ends, perform_bind, perform_withAutomaton hstored]

theorem ends_withGrammar (hcommand : command ≠ .exit) {name : String}
    {act : Grammar → Action ε σ Unit}
    (hact : ∀ grammar,
      session.collection.grammars.get? name = some grammar →
        Ends around session command (do act grammar; return true)) :
    Ends around session command
      (do withGrammar name act; return true) := by
  cases hstored : session.collection.grammars.get? name with
  | none =>
      exact ends_shown hcommand (perform_withGrammar_none hstored act)
        (holds_print session _)
  | some grammar =>
      have hends := hact grammar hstored
      rw [Ends, perform_bind] at hends
      rwa [Ends, perform_bind, perform_withGrammar hstored]

theorem ends_load (path : String) :
    Ends around session (.load path)
      (do load around path; return true) := by
  cases hload : Collection.loadFile (Surroundings.files around) path with
  | error error =>
      exact .of_eq (perform_bind_error (perform_load_error hload))
        (.unreadable hload)
  | ok found =>
      exact .of_eq (perform_bind_ok (perform_load hload))
        (.loaded hload ⟨rfl, rfl⟩)

theorem ends_graph {name : String} {automaton : Automaton}
    (hstored : session.collection.automata.get? name = some automaton) :
    Ends around session (.graph name)
      (do graph around name automaton; return true) := by
  cases hdraw : Surroundings.draw around
      (automaton.rendering name true) with
  | error error =>
      exact .of_eq (perform_bind_error (perform_graph_error hdraw))
        (.undrawable hstored hdraw)
  | ok _ => exact ends_shown (by nofun) (perform_graph hdraw) ⟨rfl, rfl⟩

theorem ends_generate {name : String} {count : Option String}
    {grammar : Grammar}
    (hstored : session.collection.grammars.get? name = some grammar) :
    Ends around session (.generate name count)
      (do generate grammar count; return true) := by
  have hgenerated : ∀ {number : Int},
      perform (readCount count : Action ε σ Int) session =
          (.ok number, session) →
        Ends around session (.generate name count)
          (do generate grammar count; return true) := fun hcount =>
    .of_eq (perform_bind_ok (perform_generate hcount grammar))
      (.generated hstored ⟨rfl, rfl⟩)
  cases count with
  | none => exact hgenerated (perform_readCount_none session)
  | some text =>
      cases hread : Text.readInteger text with
      | error error =>
          exact .of_eq
            (perform_bind_error (perform_generate_error hread grammar))
            (.uncountable hread)
      | ok number => exact hgenerated (perform_readCount_ok hread session)

theorem ends_toAutomaton {name result : String} {grammar : Grammar}
    (hstored : session.collection.grammars.get? name = some grammar) :
    Ends around session (.toAutomaton name result) (do
      (do storeAutomaton result (← attempt .conversion grammar.toAutomaton))
      return true) := by
  by_cases hlinear : grammar.IsRightLinear
  · rw [Grammar.toAutomaton_eq_ok hlinear]
    exact .of_eq rfl (.recognizer hlinear hstored ⟨rfl, rfl⟩)
  · obtain ⟨left, -, -, hconvert⟩ :=
      Grammar.exists_toAutomaton_eq_error hlinear
    rw [hconvert]
    exact .of_eq rfl (.unconvertible hstored hconvert)

theorem ends_delete (name : String) :
    Ends around session (.delete name) (do delete name; return true) := by
  cases hautomaton : session.collection.automata.get? name with
  | some automaton =>
      exact .of_eq (perform_bind_ok (perform_delete_automaton hautomaton))
        (.automatonDeleted hautomaton ⟨rfl, rfl⟩)
  | none =>
      cases hgrammar : session.collection.grammars.get? name with
      | some grammar =>
          exact .of_eq
            (perform_bind_ok (perform_delete_grammar hautomaton hgrammar))
            (.grammarDeleted hautomaton hgrammar ⟨rfl, rfl⟩)
      | none =>
          exact ends_shown (by nofun) (perform_delete_none hautomaton hgrammar)
            (holds_print session _)

theorem ends_run (around : φ) (command : Command)
    (session : Session σ) :
    Ends around session command (run around command) := by
  cases command with
  | nothing => exact .of_eq rfl (.shown (by nofun) ⟨rfl, rfl⟩)
  | exit => exact .of_eq rfl .left
  | help => exact ends_printLine (by nofun) helpText
  | load path => exact ends_load path
  | list => exact ends_shown (by nofun) (perform_list session) ⟨rfl, rfl⟩
  | showAutomaton name =>
      exact ends_withAutomaton (by nofun) fun _ _ =>
        ends_printLine (by nofun) _
  | graph name =>
      exact ends_withAutomaton (by nofun) fun _ hstored => ends_graph hstored
  | test name word =>
      exact ends_withAutomaton (by nofun) fun _ _ =>
        ends_printLine (by nofun) _
  | isDeterministic name =>
      exact ends_withAutomaton (by nofun) fun _ _ =>
        ends_printLine (by nofun) _
  | determinize name result =>
      refine ends_withAutomaton (by nofun) fun automaton hstored => ?_
      rw [automaton.determinize_eq_ok]
      exact .of_eq rfl (.determinized hstored ⟨rfl, rfl⟩)
  | toGrammar name result =>
      refine ends_withAutomaton (by nofun) fun automaton hstored => ?_
      rw [automaton.toGrammar_eq_ok]
      exact .of_eq rfl (.grammar hstored ⟨rfl, rfl⟩)
  | showGrammar name =>
      exact ends_withGrammar (by nofun) fun _ _ => ends_printLine (by nofun) _
  | classify name =>
      exact ends_withGrammar (by nofun) fun _ _ => ends_printLine (by nofun) _
  | generate name count =>
      exact ends_withGrammar (by nofun) fun _ hstored => ends_generate hstored
  | toAutomaton name result =>
      exact ends_withGrammar (by nofun) fun _ hstored =>
        ends_toAutomaton hstored
  | delete name => exact ends_delete name
  | clear => exact .of_eq rfl (.cleared ⟨rfl, rfl⟩)
  | incomplete usage => exact ends_printLine (by nofun) _
  | unknown word => exact ends_printLine (by nofun) _

theorem outcome_execute (around : φ) (line : String)
    (session : Session σ) :
    Outcome around session (Command.read line)
      (session.execute around line).1
      (session.execute around line).2 :=
  ends_run around (Command.read line) session

end Commands

end RightLinear.Session
