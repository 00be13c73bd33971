import RightLinear.Proofs.Grammar.Kind
import RightLinear.Proofs.Session.Outcome
import RightLinear.Proofs.Session.Shown
import RightLinear.Session.Console

/-! Commands that fail.  They fail before they have done anything, so a line
with such a command leaves nothing behind in a conversation but its own prompt
and message; the lines after it go on from where it found the session. -/

namespace RightLinear.Session

open Text

variable {φ ε σ : Type} [Surroundings φ ε] [RandomSource σ]

section Failing

variable {around : φ} {session : Session σ} {line : String}
  {failure : Failure ε}

/-- Of all outcomes only four are failures. -/
theorem execute_of_error
    (h : (session.execute around line).1 = .error failure) :
    session.execute around line = (.error failure, session) := by
  refine Prod.ext h ?_
  have houtcome := outcome_execute around line session
  rw [h] at houtcome
  generalize session.execute around line = result at houtcome ⊢
  generalize Command.read line = command at houtcome
  cases houtcome with
  | unreadable _ => rfl
  | uncountable _ => rfl
  | unconvertible _ _ => rfl
  | undrawable _ _ => rfl

end Failing

/-- A line as it is taken for a command. -/
def commandOf (line : String) : String := String.ofList (trim line.toList)

variable [ToString ε]

/-- What one line shows, its prompt included. -/
def turn (around : φ) (line : String) (session : Session σ) :
    Transcript :=
  (answer around line (session.fresh.print prompt)).2.transcript

/-- What each line shows, as far as lines are answered. -/
def turns (around : φ) : List String → Session σ → List Transcript
  | [], _ => []
  | line :: later, session =>
      let answered := answer around line (session.print prompt)
      turn around line session ::
        if answered.1 then turns around later answered.2 else []

/-- The session after some lines, unless one of them ends it. -/
def follow (around : φ) :
    List String → Session σ → Option (Session σ)
  | [], session => some session
  | line :: later, session =>
      let answered := answer around line (session.print prompt)
      if answered.1 then follow around later answered.2 else none

section Steps

variable {around : φ} {line : String} {session next : Session σ}

theorem converse_cons {goesOn : Bool}
    (h : answer around line (session.print prompt) = (goesOn, next))
    (later : List String) :
    converse around (line :: later) session =
      if goesOn then converse around later next else next := by
  rw [converse, h]
  cases goesOn with
  | true => rfl
  | false => rfl

theorem turns_cons {goesOn : Bool}
    (h : answer around line (session.print prompt) = (goesOn, next))
    (later : List String) :
    turns around (line :: later) session =
      turn around line session ::
        if goesOn then turns around later next else [] := by
  rw [turns, h]

theorem follow_cons {goesOn : Bool}
    (h : answer around line (session.print prompt) = (goesOn, next))
    (later : List String) :
    follow around (line :: later) session =
      if goesOn then follow around later next else none := by
  rw [follow, h]

end Steps

/-- The message that stands in place of what a command would have shown. -/
def failedTurn (failure : Failure ε) : Transcript :=
  .ofText (prompt ++ ("Error: " ++ failure.message ++ "\n"))

section Answers

variable (around : φ) (line : String) (session : Session σ)

variable {around line session} in
theorem answer_of_execute_ok {goesOn : Bool} {later : Session σ}
    (h : session.execute around (commandOf line) = (.ok goesOn, later)) :
    answer around line session = (goesOn, later) := by
  rw [commandOf] at h
  rw [answer, h]

variable {around line session} in
theorem answer_of_execute_error {failure : Failure ε} {later : Session σ}
    (h : session.execute around (commandOf line) = (.error failure, later)) :
    answer around line session =
      (true, later.print ("Error: " ++ failure.message ++ "\n")) := by
  rw [commandOf] at h
  rw [answer, h]

theorem answer_behind (earlier : Transcript) :
    answer around line (session.behind earlier) =
      ((answer around line session).1,
        (answer around line session).2.behind earlier) := by
  have hbehind := execute_behind around (commandOf line) session earlier
  cases hexecute : session.execute around (commandOf line) with
  | mk result later =>
      rw [hexecute] at hbehind
      cases result with
      | ok goesOn =>
          rw [answer_of_execute_ok hbehind, answer_of_execute_ok hexecute]
      | error failure =>
          rw [answer_of_execute_error hbehind,
            answer_of_execute_error hexecute, print_behind]

theorem answer_print :
    answer around line (session.print prompt) =
      ((answer around line (session.fresh.print prompt)).1,
        (answer around line (session.fresh.print prompt)).2.behind
          session.transcript) := by
  rw [← answer_behind, ← print_behind, behind_fresh]

theorem transcript_answer :
    (answer around line (session.print prompt)).2.transcript =
      session.transcript ++ turn around line session := by
  rw [answer_print]
  rfl

theorem turn_behind (earlier : Transcript) :
    turn around line (session.behind earlier) = turn around line session := by
  rw [turn, turn, fresh_behind]

end Answers

section Lines

variable {around : φ} {session reached : Session σ}

theorem answer_of_error {line : String} {failure : Failure ε}
    (h : (session.execute around (commandOf line)).1 = .error failure) :
    answer around line (session.print prompt) =
      (true, session.print (prompt ++
        ("Error: " ++ failure.message ++ "\n"))) := by
  have hprinted :
      ((session.print prompt).execute around (commandOf line)).1 =
        .error failure := by
    rw [← fst_execute_fresh, fresh_print, fst_execute_fresh, h]
  rw [answer_of_execute_error (execute_of_error hprinted), print_print]

theorem turn_of_error {line : String} {failure : Failure ε}
    (h : (session.execute around (commandOf line)).1 = .error failure) :
    turn around line session = failedTurn failure := by
  have hfresh : (session.fresh.execute around (commandOf line)).1 =
      .error failure := by
    rw [fst_execute_fresh, h]
  rw [turn, answer_of_error hfresh]
  exact congrArg (Transcript.mk · [] []) String.empty_append

/-- By induction on the lines: each is answered from where the one before has
left the session, whatever was shown until then. -/
theorem turns_behind (lines : List String) (session : Session σ)
    (earlier : Transcript) :
    turns around lines (session.behind earlier) =
      turns around lines session := by
  induction lines generalizing session with
  | nil => rfl
  | cons line later ih =>
      cases hanswer : answer around line (session.print prompt) with
      | mk goesOn next =>
          have hbehind :=
            answer_behind around line (session.print prompt) earlier
          rw [hanswer, ← print_behind] at hbehind
          rw [turns_cons hbehind, turns_cons hanswer, turn_behind, ih]

theorem converse_behind (lines : List String) (session : Session σ)
    (earlier : Transcript) :
    converse around lines (session.behind earlier) =
      (converse around lines session).behind earlier := by
  induction lines generalizing session with
  | nil => exact session.print_behind earlier _
  | cons line later ih =>
      cases hanswer : answer around line (session.print prompt) with
      | mk goesOn next =>
          have hbehind :=
            answer_behind around line (session.print prompt) earlier
          rw [hanswer, ← print_behind] at hbehind
          rw [converse_cons hbehind, converse_cons hanswer, ih]
          cases goesOn with
          | true => rfl
          | false => rfl

/-- A conversation shows one turn after the other, and a last prompt if no line
has ended it. -/
theorem transcript_converse (lines : List String) (session : Session σ) :
    (converse around lines session).transcript =
      session.transcript ++ Transcript.join (turns around lines session) ++
        if (follow around lines session).isSome then
          Transcript.ofText (prompt ++ "\n")
        else Transcript.empty := by
  induction lines generalizing session with
  | nil =>
      rw [turns, Transcript.join_nil, Transcript.append_empty]
      simp only [converse, follow, print, Transcript.append_eq,
        Transcript.ofText, Option.isSome_some, if_true, List.append_nil]
  | cons line later ih =>
      have hshown := transcript_answer around line session
      cases hanswer : answer around line (session.print prompt) with
      | mk goesOn next =>
          rw [hanswer] at hshown
          rw [converse_cons hanswer, turns_cons hanswer, follow_cons hanswer,
            Transcript.join_cons, ← Transcript.append_assoc, ← hshown]
          cases goesOn with
          | true => exact ih next
          | false =>
              exact ((Transcript.append_empty _).trans
                (Transcript.append_empty _)).symm

variable {before : List String}

theorem converse_append (h : follow around before session = some reached)
    (after : List String) :
    converse around (before ++ after) session =
      converse around after reached := by
  induction before generalizing session with
  | nil =>
      obtain rfl := Option.some.inj h
      rfl
  | cons line before ih =>
      cases hanswer : answer around line (session.print prompt) with
      | mk goesOn next =>
          rw [follow_cons hanswer] at h
          rw [List.cons_append, converse_cons hanswer]
          cases goesOn with
          | true => exact ih h
          | false => contradiction

theorem turns_append (h : follow around before session = some reached)
    (after : List String) :
    turns around (before ++ after) session =
      turns around before session ++ turns around after reached := by
  induction before generalizing session with
  | nil =>
      obtain rfl := Option.some.inj h
      rfl
  | cons line before ih =>
      cases hanswer : answer around line (session.print prompt) with
      | mk goesOn next =>
          rw [follow_cons hanswer] at h
          rw [List.cons_append, turns_cons hanswer, turns_cons hanswer,
            List.cons_append]
          cases goesOn with
          | true => exact congrArg _ (ih h)
          | false => contradiction

end Lines

/-- A command that fails does nothing, so a line with it can be left out: every
other line shows what it would have shown, and what is loaded and drawn in the
end is the same. -/
theorem failure_does_nothing (around : φ) :
    (∀ (session : Session σ) (line : String) (failure : Failure ε),
      (session.execute around line).1 = .error failure →
        (session.execute around line).2 = session) ∧
      ∀ (session reached : Session σ) (before after : List String)
        (line : String) (failure : Failure ε),
        follow around before session = some reached →
        (reached.execute around (commandOf line)).1 = .error failure →
          turns around (before ++ line :: after) session =
              turns around before session ++
                failedTurn failure :: turns around after reached ∧
            turns around (before ++ after) session =
              turns around before session ++ turns around after reached ∧
            (converse around (before ++ line :: after) session).collection =
              (converse around (before ++ after) session).collection ∧
            (converse around (before ++ line :: after) session).source =
              (converse around (before ++ after) session).source ∧
            ∃ rest : Transcript,
              (converse around (before ++ after) session).transcript =
                  reached.transcript ++ rest ∧
                (converse around (before ++ line :: after) session).transcript =
                  reached.transcript ++ failedTurn failure ++ rest := by
  constructor
  · intro session line failure h
    rw [execute_of_error h]
  · intro session reached before after line failure hreached h
    have hanswer := answer_of_error h
    have hturns : turns around (line :: after) reached =
        failedTurn failure :: turns around after reached := by
      rw [turns_cons hanswer, turn_of_error h, if_pos rfl, print_eq_behind,
        turns_behind, ← turns_behind after reached.fresh, behind_fresh]
    have hafter : converse around after reached =
        (converse around after reached.fresh).behind reached.transcript := by
      rw [← converse_behind, behind_fresh]
    have hline : converse around (line :: after) reached =
        (converse around after reached.fresh).behind
          (reached.transcript ++ failedTurn failure) := by
      rw [converse_cons hanswer, if_pos rfl, print_eq_behind, converse_behind]
      rfl
    rw [turns_append hreached, turns_append hreached, hturns,
      converse_append hreached, converse_append hreached, hline, hafter]
    exact ⟨rfl, rfl, rfl, rfl, _, rfl, rfl⟩

def noFiles : FileSystem := ⟨fun path => .error (.notFound path)⟩

/-- A session with a grammar that has no automaton. -/
def pairSession : Session Congruential where
  collection := ⟨∅, (∅ : Registry Grammar).insert "pair" (Grammar.pairGrammar 1)⟩
  source := .ofSeed 7

theorem pairSession_failure_does_nothing :
    ∃ reached : Session Congruential,
      follow noFiles ["classify pair"] pairSession = some reached ∧
        (reached.execute noFiles (commandOf "to_nea pair")).1 =
          .error (.conversion (.leftSide "AB")) ∧
        (reached.execute noFiles (commandOf "to_nea pair")).2 = reached ∧
        turns noFiles ["classify pair", "to_nea pair", "delete pair"]
            pairSession =
          turns noFiles ["classify pair"] pairSession ++
            failedTurn (.conversion (.leftSide "AB") : Failure Empty) ::
              turns noFiles ["delete pair"] reached ∧
        (converse noFiles ["classify pair", "to_nea pair", "delete pair"]
            pairSession).collection =
          (converse noFiles ["classify pair", "delete pair"]
            pairSession).collection := by
  obtain ⟨reached, hreached, herror⟩ : ∃ reached : Session Congruential,
      follow noFiles ["classify pair"] pairSession = some reached ∧
        (reached.execute noFiles (commandOf "to_nea pair")).1 =
          .error (.conversion (.leftSide "AB")) := ⟨_, rfl, rfl⟩
  obtain ⟨hunchanged, hremoved⟩ :=
    @failure_does_nothing FileSystem Empty Congruential _ _ _ noFiles
  obtain ⟨hturns, -, hcollection, -⟩ := hremoved pairSession reached
    ["classify pair"] ["delete pair"] "to_nea pair" _ hreached herror
  exact ⟨reached, hreached, herror, hunchanged reached _ _ herror, hturns,
    hcollection⟩

/-- Files, and a message in place of every diagram. -/
structure Undrawn where
  files : FileSystem
  message : String

instance : Surroundings Undrawn String where
  files := Undrawn.files
  draw around _ := .error around.message

example (automaton : Automaton) :
    let session : Session Congruential :=
      { collection := ⟨(∅ : Registry Automaton).insert "m" automaton, ∅⟩
        source := .ofSeed 7 }
    session.execute (Undrawn.mk noFiles "no renderer") "graph m" =
      (.error (.drawing "no renderer"), session) := rfl

end RightLinear.Session
