import RightLinear.Proofs.Session.Actions

/-! Transcripts are only written to.  What a command does is the same whatever
was shown before it, and what it shows itself comes after that. -/

namespace RightLinear

namespace Transcript

/-- What is shown first, then what is shown later. -/
def append (first later : Transcript) : Transcript :=
  ⟨first.printed ++ later.printed, first.warnings ++ later.warnings,
    first.renderings ++ later.renderings⟩

instance : Append Transcript := ⟨append⟩

def empty : Transcript := {}

def ofText (text : String) : Transcript := { printed := text }

theorem append_eq (first later : Transcript) :
    first ++ later =
      ⟨first.printed ++ later.printed, first.warnings ++ later.warnings,
        first.renderings ++ later.renderings⟩ := rfl

theorem append_empty (transcript : Transcript) :
    transcript ++ empty = transcript := by
  simp only [append_eq, empty, String.append_empty, List.append_nil]

theorem append_assoc (first second third : Transcript) :
    first ++ second ++ third = first ++ (second ++ third) := by
  simp only [append_eq, String.append_assoc, List.append_assoc]

/-- One transcript after the other. -/
def join (transcripts : List Transcript) : Transcript :=
  transcripts.foldr (· ++ ·) empty

@[simp] theorem join_nil : join [] = empty := rfl

@[simp] theorem join_cons (first : Transcript) (later : List Transcript) :
    join (first :: later) = first ++ join later := rfl

end Transcript

namespace Session

variable {φ ε σ α β : Type}

/-- The session with something shown before all that it has shown. -/
def behind (earlier : Transcript) (session : Session σ) : Session σ :=
  { session with transcript := earlier ++ session.transcript }

/-- The session as if it had shown nothing. -/
def fresh (session : Session σ) : Session σ := { session with transcript := .empty }

section Transcripts

variable (session : Session σ) (earlier : Transcript)

@[simp] theorem source_behind :
    (session.behind earlier).source = session.source := rfl

theorem behind_fresh : session.fresh.behind session.transcript = session := by
  rw [behind, fresh, Transcript.append_empty]

theorem fresh_behind : (session.behind earlier).fresh = session.fresh := rfl

theorem fresh_print (text : String) :
    (session.print text).fresh = session.fresh := rfl

theorem print_behind (text : String) :
    (session.behind earlier).print text =
      (session.print text).behind earlier := by
  simp only [behind, print, Transcript.append_eq, String.append_assoc]

theorem warn_behind (warnings : List Warning) :
    (session.behind earlier).warn warnings =
      (session.warn warnings).behind earlier := by
  simp only [behind, warn, Transcript.append_eq, List.append_assoc]

theorem draw_behind (rendering : Rendering) :
    (session.behind earlier).draw rendering =
      (session.draw rendering).behind earlier := by
  simp only [behind, draw, Transcript.append_eq, List.append_assoc]

/-- What was printed last only lengthens what was shown before. -/
theorem print_eq_behind (text : String) :
    session.print text =
      session.fresh.behind (session.transcript ++ .ofText text) := by
  rw [behind, fresh, Transcript.append_empty, Transcript.append_eq]
  simp only [print, Transcript.ofText, List.append_nil]

end Transcripts

/-- What was shown before makes no difference to an action. -/
def IgnoresTranscript (act : Action ε σ α) : Prop :=
  ∀ earlier session, perform act (session.behind earlier) =
    ((perform act session).1, (perform act session).2.behind earlier)

namespace IgnoresTranscript

theorem pure (value : α) : IgnoresTranscript (pure value : Action ε σ α) :=
  fun _ _ => rfl

theorem modify {change : Session σ → Session σ}
    (h : ∀ earlier session, change (session.behind earlier) =
      (change session).behind earlier) :
    IgnoresTranscript (modify change : Action ε σ Unit) := by
  intro earlier session
  rw [perform_modify, h]
  rfl

theorem bind {first : Action ε σ α} {next : α → Action ε σ β}
    (hfirst : IgnoresTranscript first)
    (hnext : ∀ value, IgnoresTranscript (next value)) :
    IgnoresTranscript (first >>= next) := by
  intro earlier session
  rw [perform_bind, perform_bind, hfirst]
  obtain ⟨answer, later⟩ := perform first session
  cases answer with
  | ok value => exact hnext value earlier later
  | error failure => rfl

/-- An action may read whatever else there is in a session. -/
theorem get_bind {next : Session σ → Action ε σ β}
    (hsame : ∀ earlier session, next (session.behind earlier) = next session)
    (hnext : ∀ session, IgnoresTranscript (next session)) :
    IgnoresTranscript (get >>= next) := by
  intro earlier session
  rw [perform_get_bind, perform_get_bind, hsame]
  exact hnext session earlier session

theorem attempt {δ : Type} (failure : δ → Failure ε) (result : Except δ α) :
    IgnoresTranscript (attempt failure result : Action ε σ α) := by
  intro earlier session
  rw [perform_attempt, perform_attempt]

theorem printLine (text : String) :
    IgnoresTranscript (printLine text : Action ε σ Unit) :=
  modify fun earlier session => session.print_behind earlier _

theorem forM {values : List α} {act : α → Action ε σ Unit}
    (hact : ∀ value, IgnoresTranscript (act value)) :
    IgnoresTranscript (values.forM act) := by
  induction values with
  | nil => exact pure ()
  | cons value values ih => exact (hact value).bind fun _ => ih

theorem storeAutomaton (name : String) (automaton : Automaton) :
    IgnoresTranscript (storeAutomaton name automaton : Action ε σ Unit) :=
  (modify fun _ _ => rfl).bind fun _ => printLine _

theorem storeGrammar (name : String) (grammar : Grammar) :
    IgnoresTranscript (storeGrammar name grammar : Action ε σ Unit) :=
  (modify fun _ _ => rfl).bind fun _ => printLine _

theorem fetchAutomaton (name : String) :
    IgnoresTranscript
      (fetchAutomaton name : Action ε σ (Option Automaton)) := by
  refine get_bind (fun _ _ => rfl) fun session => ?_
  cases session.collection.automata.get? name with
  | none => exact (printLine _).bind fun _ => pure _
  | some automaton => exact pure _

theorem withAutomaton {name : String} {act : Automaton → Action ε σ Unit}
    (hact : ∀ automaton, IgnoresTranscript (act automaton)) :
    IgnoresTranscript (withAutomaton name act) := by
  refine (fetchAutomaton name).bind fun found => ?_
  cases found with
  | none => exact pure ()
  | some automaton => exact hact automaton

theorem fetchGrammar (name : String) :
    IgnoresTranscript (fetchGrammar name : Action ε σ (Option Grammar)) := by
  refine get_bind (fun _ _ => rfl) fun session => ?_
  cases session.collection.grammars.get? name with
  | none => exact (printLine _).bind fun _ => pure _
  | some grammar => exact pure _

theorem withGrammar {name : String} {act : Grammar → Action ε σ Unit}
    (hact : ∀ grammar, IgnoresTranscript (act grammar)) :
    IgnoresTranscript (withGrammar name act) := by
  refine (fetchGrammar name).bind fun found => ?_
  cases found with
  | none => exact pure ()
  | some grammar => exact hact grammar

theorem load [Surroundings φ ε] (around : φ) (path : String) :
    IgnoresTranscript (load around path : Action ε σ Unit) :=
  (attempt _ _).bind fun _ =>
    (modify fun earlier session => session.warn_behind earlier _).bind fun _ =>
      (modify fun _ _ => rfl).bind fun _ => printLine _

theorem list : IgnoresTranscript (list : Action ε σ Unit) :=
  get_bind (fun _ _ => rfl) fun _ => forM printLine

theorem readCount (count : Option String) :
    IgnoresTranscript (readCount count : Action ε σ Int) := by
  cases count with
  | none => exact pure _
  | some text => exact attempt _ _

theorem generate [RandomSource σ] (grammar : Grammar)
    (count : Option String) :
    IgnoresTranscript (generate grammar count : Action ε σ Unit) := by
  refine (readCount count).bind fun number => ?_
  refine get_bind (fun earlier session => by rw [source_behind]) fun session => ?_
  obtain ⟨batch, source⟩ :=
    grammar.generateMany number Grammar.usualAttempts session.source
  refine (modify fun _ _ => rfl).bind fun _ => ?_
  exact (modify fun earlier session => session.warn_behind earlier _).bind
    fun _ => forM fun _ => printLine _

theorem graph [Surroundings φ ε] (around : φ) (name : String)
    (automaton : Automaton) :
    IgnoresTranscript (graph around name automaton : Action ε σ Unit) :=
  (attempt _ _).bind fun _ =>
    (modify fun earlier session => session.draw_behind earlier _).bind
      fun _ => printLine _

theorem delete (name : String) :
    IgnoresTranscript (delete name : Action ε σ Unit) := by
  refine get_bind (fun _ _ => rfl) fun _ => ?_
  dsimp only
  split
  · exact (modify fun _ _ => rfl).bind fun _ => printLine _
  · split
    · exact (modify fun _ _ => rfl).bind fun _ => printLine _
    · exact printLine _

/-- An action with the answer that the session goes on. -/
theorem goesOn {act : Action ε σ Unit} (hact : IgnoresTranscript act) :
    IgnoresTranscript (do act; return true) :=
  hact.bind fun _ => pure true

theorem run [Surroundings φ ε] [RandomSource σ] (around : φ)
    (command : Command) :
    IgnoresTranscript (run around command : Action ε σ Bool) := by
  cases command with
  | nothing => exact pure true
  | exit => exact pure false
  | help => exact (printLine helpText).goesOn
  | load path => exact (load around path).goesOn
  | list => exact list.goesOn
  | showAutomaton name => exact (withAutomaton fun _ => printLine _).goesOn
  | graph name =>
      exact (withAutomaton (graph around name)).goesOn
  | test name word => exact (withAutomaton fun _ => printLine _).goesOn
  | isDeterministic name => exact (withAutomaton fun _ => printLine _).goesOn
  | determinize name result =>
      refine (withAutomaton fun _ => ?_).goesOn
      exact (attempt _ _).bind (storeAutomaton result)
  | toGrammar name result =>
      refine (withAutomaton fun _ => ?_).goesOn
      exact (attempt _ _).bind (storeGrammar result)
  | showGrammar name => exact (withGrammar fun _ => printLine _).goesOn
  | classify name => exact (withGrammar fun _ => printLine _).goesOn
  | generate name count =>
      exact (withGrammar fun grammar => generate grammar count).goesOn
  | toAutomaton name result =>
      refine (withGrammar fun _ => ?_).goesOn
      exact (attempt _ _).bind (storeAutomaton result)
  | delete name => exact (delete name).goesOn
  | clear =>
      exact (modify fun _ _ => rfl).bind fun _ => (printLine _).goesOn
  | incomplete usage => exact (printLine _).goesOn
  | unknown word => exact (printLine _).goesOn

end IgnoresTranscript

section Execution

variable [Surroundings φ ε] [RandomSource σ] (around : φ)
  (line : String) (session : Session σ)

theorem execute_behind (earlier : Transcript) :
    (session.behind earlier).execute around line =
      ((session.execute around line).1,
        (session.execute around line).2.behind earlier) :=
  IgnoresTranscript.run around (Command.read line) earlier session

theorem execute_fresh :
    session.execute around line =
      ((session.fresh.execute around line).1,
        (session.fresh.execute around line).2.behind session.transcript) := by
  rw [← execute_behind, behind_fresh]

theorem fst_execute_fresh :
    (session.fresh.execute around line).1 = (session.execute around line).1 :=
  (congrArg Prod.fst (execute_fresh around line session)).symm

end Execution

end Session

end RightLinear
