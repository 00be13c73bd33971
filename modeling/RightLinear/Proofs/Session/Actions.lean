import RightLinear.Proofs.Collection.Merge
import RightLinear.Session.Run

/-! What an action answers and which session it leaves.  An action that fails
leaves the session as far as it has got, so all of this is said of the pair. -/

namespace RightLinear.Session

variable {φ ε σ α β : Type}

/-- The answer of an action, and the session after it. -/
def perform (act : Action ε σ α) (session : Session σ) :
    Except (Failure ε) α × Session σ :=
  act.run.run session

theorem execute_eq [RandomSource σ] [Surroundings φ ε] (around : φ)
    (line : String) (session : Session σ) :
    session.execute around line =
      perform (run around (Command.read line)) session := rfl

section Steps

variable {session : Session σ}

@[simp] theorem perform_modify (change : Session σ → Session σ) :
    perform (modify change : Action ε σ Unit) session =
      (.ok (), change session) := rfl

theorem perform_bind (first : Action ε σ α) (next : α → Action ε σ β) :
    perform (first >>= next) session =
      match perform first session with
      | (.ok value, later) => perform (next value) later
      | (.error failure, later) => (.error failure, later) := by
  unfold perform
  rw [ExceptT.run_bind, StateT.run_bind]
  cases first.run.run session with
  | mk answer later =>
      cases answer with
      | ok value => rfl
      | error failure => rfl

theorem perform_get_bind (next : Session σ → Action ε σ β) :
    perform (get >>= next) session = perform (next session) session := rfl

theorem perform_bind_ok {first : Action ε σ α} {next : α → Action ε σ β}
    {value : α} {later : Session σ}
    (h : perform first session = (.ok value, later)) :
    perform (first >>= next) session = perform (next value) later := by
  rw [perform_bind, h]

theorem perform_bind_error {first : Action ε σ α} {next : α → Action ε σ β}
    {failure : Failure ε} {later : Session σ}
    (h : perform first session = (.error failure, later)) :
    perform (first >>= next) session = (.error failure, later) := by
  rw [perform_bind, h]

@[simp] theorem perform_attempt {δ : Type} (failure : δ → Failure ε)
    (result : Except δ α) :
    perform (attempt failure result) session =
      (result.mapError failure, session) := by
  cases result with
  | ok value => rfl
  | error error => rfl

@[simp] theorem perform_printLine (text : String) :
    perform (printLine text : Action ε σ Unit) session =
      (.ok (), session.print (text ++ "\n")) := rfl

end Steps

section Printing

theorem print_empty (session : Session σ) : session.print "" = session := by
  rw [print, String.append_empty]

theorem print_print (session : Session σ) (first second : String) :
    (session.print first).print second = session.print (first ++ second) := by
  simp only [print, String.append_assoc]

/-- Lines are printed one after the other. -/
theorem perform_forM_printLine (line : α → String) (values : List α)
    (session : Session σ) :
    perform (values.forM fun value =>
        (printLine (line value) : Action ε σ Unit)) session =
      (.ok (), session.print
        (String.join (values.map fun value => line value ++ "\n"))) := by
  induction values generalizing session with
  | nil => exact congrArg (Prod.mk _) session.print_empty.symm
  | cons value values ih =>
      have hcons : ((value :: values).forM fun value =>
          (printLine (line value) : Action ε σ Unit)) =
        (do printLine (line value)
            values.forM fun value => printLine (line value)) := rfl
      rw [hcons, perform_bind_ok (perform_printLine _), ih, print_print,
        List.map_cons, String.join_cons]

end Printing

section Items

variable {session : Session σ} {name : String}

theorem perform_withAutomaton {automaton : Automaton}
    (h : session.collection.automata.get? name = some automaton)
    (act : Automaton → Action ε σ Unit) :
    perform (withAutomaton name act) session =
      perform (act automaton) session := by
  have hfetch : perform (fetchAutomaton name : Action ε σ _) session =
      (.ok (some automaton), session) := by
    rw [fetchAutomaton, perform_get_bind, h]
    rfl
  rw [withAutomaton, perform_bind_ok hfetch]

theorem perform_withAutomaton_none
    (h : session.collection.automata.get? name = none)
    (act : Automaton → Action ε σ Unit) :
    perform (withAutomaton name act) session =
      (.ok (), session.print ("Automaton not found: " ++ name ++ "\n")) := by
  have hfetch : perform (fetchAutomaton name : Action ε σ _) session =
      (.ok none, session.print ("Automaton not found: " ++ name ++ "\n")) := by
    rw [fetchAutomaton, perform_get_bind, h]
    rfl
  rw [withAutomaton, perform_bind_ok hfetch]
  rfl

theorem perform_withGrammar {grammar : Grammar}
    (h : session.collection.grammars.get? name = some grammar)
    (act : Grammar → Action ε σ Unit) :
    perform (withGrammar name act) session =
      perform (act grammar) session := by
  have hfetch : perform (fetchGrammar name : Action ε σ _) session =
      (.ok (some grammar), session) := by
    rw [fetchGrammar, perform_get_bind, h]
    rfl
  rw [withGrammar, perform_bind_ok hfetch]

theorem perform_withGrammar_none
    (h : session.collection.grammars.get? name = none)
    (act : Grammar → Action ε σ Unit) :
    perform (withGrammar name act) session =
      (.ok (), session.print ("Grammar not found: " ++ name ++ "\n")) := by
  have hfetch : perform (fetchGrammar name : Action ε σ _) session =
      (.ok none, session.print ("Grammar not found: " ++ name ++ "\n")) := by
    rw [fetchGrammar, perform_get_bind, h]
    rfl
  rw [withGrammar, perform_bind_ok hfetch]
  rfl

end Items

section Commands

variable {session : Session σ} {name : String}

section Surroundings

variable [Surroundings φ ε] {around : φ} {path : String}

theorem perform_load_error {error : FileError}
    (hload : Collection.loadFile (Surroundings.files around) path =
      .error error) :
    perform (load around path) session =
      (.error (.file error), session) := by
  rw [load, hload]
  exact perform_bind_error (perform_attempt _ _)

/-- The session after a file was loaded. -/
def afterLoading (found : Collection.Loaded) (session : Session σ) :
    Session σ :=
  ((session.warn (found.refusals.map .refusal)).withCollection
    (session.collection.merge found.collection)).print
      (loadedText found.collection ++ "\n")

theorem perform_load {found : Collection.Loaded}
    (hload : Collection.loadFile (Surroundings.files around) path =
      .ok found) :
    perform (load around path) session =
      (.ok (), session.afterLoading found) := by
  rw [load, hload]
  rfl

theorem perform_graph_error {automaton : Automaton} {error : ε}
    (hdraw : Surroundings.draw around (automaton.rendering name true) =
      .error error) :
    perform (graph around name automaton) session =
      (.error (.drawing error), session) := by
  rw [graph, hdraw]
  exact perform_bind_error (perform_attempt _ _)

theorem perform_graph {automaton : Automaton}
    (hdraw : Surroundings.draw around (automaton.rendering name true) =
      .ok ()) :
    perform (graph around name automaton) session =
      (.ok (), (session.draw (automaton.rendering name true)).print
        ("Rendered " ++ name ++ ".png" ++ "\n")) := by
  rw [graph, hdraw]
  rfl

end Surroundings

theorem perform_list (session : Session σ) :
    perform (list : Action ε σ Unit) session =
      (.ok (), session.print (String.join
        ((listLines session.collection).map fun line => line ++ "\n"))) := by
  rw [list, perform_get_bind]
  exact perform_forM_printLine _ _ _

theorem perform_readCount_none (session : Session σ) :
    perform (readCount none : Action ε σ Int) session =
      (.ok usualCount, session) := rfl

theorem perform_readCount_ok {text : String} {number : Int}
    (hread : Text.readInteger text = .ok number) (session : Session σ) :
    perform (readCount (some text) : Action ε σ Int) session =
      (.ok number, session) := by
  rw [readCount, perform_attempt, hread]
  rfl

theorem perform_readCount_error {text : String} {error : Text.NumeralError}
    (hread : Text.readInteger text = .error error) (session : Session σ) :
    perform (readCount (some text) : Action ε σ Int) session =
      (.error (.numeral error), session) := by
  rw [readCount, perform_attempt, hread]
  rfl

/-- The session after some sentences were asked for. -/
def afterSentences [RandomSource σ] (grammar : Grammar) (number : Int)
    (session : Session σ) : Session σ :=
  let drawn := grammar.generateMany number Grammar.usualAttempts session.source
  ({ session with source := drawn.2 }.warn
    (drawn.1.shortfall.toList.map .shortfall)).print
      (String.join (drawn.1.sentences.map fun sentence =>
        "  " ++ sentence ++ "\n"))

theorem perform_generate [RandomSource σ] {count : Option String}
    {number : Int}
    (hcount : perform (readCount count : Action ε σ Int) session =
      (.ok number, session))
    (grammar : Grammar) :
    perform (generate grammar count : Action ε σ Unit) session =
      (.ok (), session.afterSentences grammar number) := by
  rw [generate, perform_bind_ok hcount, perform_get_bind]
  exact perform_forM_printLine _ _ _

theorem perform_generate_error [RandomSource σ] {text : String}
    {error : Text.NumeralError}
    (hread : Text.readInteger text = .error error) (grammar : Grammar) :
    perform (generate grammar (some text) : Action ε σ Unit) session =
      (.error (.numeral error), session) :=
  perform_bind_error (perform_readCount_error hread session)

/-- An automaton goes first. -/
theorem perform_delete_automaton {automaton : Automaton}
    (hstored : session.collection.automata.get? name = some automaton) :
    perform (delete name : Action ε σ Unit) session =
      (.ok (), (session.withCollection
        { session.collection with
          automata := session.collection.automata.erase name }).print
            ("Deleted automaton: " ++ name ++ "\n")) := by
  simp only [delete, perform_get_bind, hstored]
  rfl

theorem perform_delete_grammar {grammar : Grammar}
    (hnone : session.collection.automata.get? name = none)
    (hstored : session.collection.grammars.get? name = some grammar) :
    perform (delete name : Action ε σ Unit) session =
      (.ok (), (session.withCollection
        { session.collection with
          grammars := session.collection.grammars.erase name }).print
            ("Deleted grammar: " ++ name ++ "\n")) := by
  simp only [delete, perform_get_bind, hnone, hstored]
  rfl

theorem perform_delete_none
    (hautomaton : session.collection.automata.get? name = none)
    (hgrammar : session.collection.grammars.get? name = none) :
    perform (delete name : Action ε σ Unit) session =
      (.ok (), session.print ("Not found: " ++ name ++ "\n")) := by
  simp only [delete, perform_get_bind, hautomaton, hgrammar]
  rfl

end Commands

end RightLinear.Session
