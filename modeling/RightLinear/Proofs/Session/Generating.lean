import RightLinear.Proofs.Automaton.Labels
import RightLinear.Proofs.Grammar.Batch
import RightLinear.Proofs.Grammar.Terminals
import RightLinear.Proofs.Session.Lines
import RightLinear.Proofs.Session.Reachable

/-! What is generated is accepted.  Whichever way automata and grammars come
into a session, their symbols are visible characters, so every sentence of a
grammar is one word of a line, and the automaton of the grammar accepts it when
it is given back. -/

namespace RightLinear

open Text
open Automaton.Format (IsWord)

section Symbols

def Automaton.IsVisible (automaton : Automaton) : Prop :=
  ∀ symbol ∈ automaton.alphabet, Unbroken symbol

def Grammar.IsVisible (grammar : Grammar) : Prop :=
  ∀ terminal ∈ grammar.terminals, Unbroken terminal

theorem Automaton.IsVisible.determinized {automaton : Automaton}
    (h : automaton.IsVisible) : automaton.determinized.IsVisible := by
  rw [IsVisible, alphabet_determinized]
  exact h

theorem Automaton.IsVisible.grammar {automaton : Automaton}
    (h : automaton.IsVisible) : automaton.grammar.IsVisible :=
  fun terminal hterminal => h terminal (SortedSet.mem_ofList.mp hterminal)

theorem Grammar.IsVisible.recognizer {grammar : Grammar}
    (h : grammar.IsVisible) (hlinear : grammar.IsRightLinear) :
    (grammar.recognizer hlinear).IsVisible :=
  fun symbol hsymbol => h symbol (SortedSet.mem_ofList.mp hsymbol)

theorem Collection.isVisible_load (text name : String) :
    (load text name).collection.All (fun _ automaton => automaton.IsVisible)
      fun _ grammar => grammar.IsVisible := by
  apply all_load
  · intro definition _ automaton hautomaton _
    obtain ⟨automata, hread, hmem⟩ := readAll_of_mem_automataOf hautomaton
    exact Automaton.unbroken_of_readAll hread automaton hmem
  · intro definition _ grammar hgrammar
    exact Grammar.unbroken_of_read (read_of_grammarOf? hgrammar)

theorem Grammar.IsVisible.isWord_join {grammar : Grammar}
    (h : grammar.IsVisible) {word : List String}
    (hderives : grammar.Derives word) : IsWord (String.join word).toList := by
  have hsymbols := Automaton.symbolsOf_join hderives.length_symbol
  constructor
  · intro hempty
    rw [Automaton.symbolsOf, hempty] at hsymbols
    exact hderives.ne_nil hsymbols.symm
  · intro character hcharacter
    have hmem : String.singleton character ∈ word := by
      rw [← hsymbols]
      exact List.mem_map_of_mem hcharacter
    have hvisible := h _ (hderives.terminal_mem _ hmem)
    rw [Unbroken, String.toList_singleton] at hvisible
    exact hvisible character (List.mem_singleton_self character)

end Symbols

namespace Session

variable {φ ε σ : Type} [Surroundings φ ε] [RandomSource σ]

theorem isVisible_after (commands : List (φ × String)) (source : σ) :
    (after commands source).collection.All
      (fun _ automaton => automaton.IsVisible)
      fun _ grammar => grammar.IsVisible := by
  refine all_after (fun command _ => ?_) source
  constructor
  · intro path found _ hload
    obtain ⟨text, _, rfl⟩ := Collection.loadFile_eq_ok hload
    exact Collection.isVisible_load text _
  · exact fun _ hvisible => hvisible.determinized
  · exact fun _ hvisible => hvisible.grammar
  · exact fun hlinear _ hvisible => hvisible.recognizer hlinear

section Commands

variable {session : Session σ} {around : φ} {name result : String}
  {count : Option String} {grammar : Grammar}

def generateLine (name : String) (count : Option String) : String :=
  " ".intercalate ("generate" :: name :: count.toList)

def conversionLine (name result : String) : String :=
  " ".intercalate ["to_nea", name, result]

def testLine (name word : String) : String :=
  " ".intercalate ["test", name, word]

/-- The sentences that are shown for a count, none if it is no number. -/
def sentencesFor (grammar : Grammar) (count : Option String) (source : σ) :
    List String :=
  match (count.map Text.readInteger).getD (.ok usualCount) with
  | .ok number =>
      (grammar.generateMany number Grammar.usualAttempts source).1.sentences
  | .error _ => []

theorem derives_of_mem_sentencesFor {source : σ} {sentence : String}
    (h : sentence ∈ sentencesFor grammar count source) :
    ∃ word, grammar.Derives word ∧ String.join word = sentence := by
  rw [sentencesFor] at h
  split at h
  · exact Grammar.derives_of_mem_sentences h
  · contradiction

theorem read_generateLine (hname : IsWord name.toList)
    (hcount : ∀ text ∈ count, IsWord text.toList) :
    Command.read (generateLine name count) = .generate name count := by
  have harguments : ∀ argument ∈ name :: count.toList,
      IsWord argument.toList :=
    List.forall_mem_cons.mpr ⟨hname, fun text htext =>
      hcount text (Option.mem_toList.mp htext)⟩
  rw [generateLine, Command.read_verb (by simp [Command.verbs]) harguments]
  cases count with
  | none => rfl
  | some text => rfl

theorem read_conversionLine (hname : IsWord name.toList)
    (hresult : IsWord result.toList) :
    Command.read (conversionLine name result) = .toAutomaton name result := by
  rw [conversionLine, Command.read_verb (by simp [Command.verbs])
    (List.forall_mem_cons.mpr ⟨hname, List.forall_mem_singleton.mpr hresult⟩)]
  rfl

theorem read_testLine {word : String} (hname : IsWord name.toList)
    (hword : IsWord word.toList) :
    Command.read (testLine name word) = .test name word := by
  rw [testLine, Command.read_verb (by simp [Command.verbs])
    (List.forall_mem_cons.mpr ⟨hname, List.forall_mem_singleton.mpr hword⟩)]
  rfl

/-- Generating leaves the collection as it is and prints the sentences. -/
theorem execute_generateLine
    (hstored : session.collection.grammars.get? name = some grammar)
    (hname : IsWord name.toList)
    (hcount : ∀ text ∈ count, IsWord text.toList) :
    (session.execute around (generateLine name count)).2.collection =
        session.collection ∧
      (session.execute around (generateLine name count)).2.transcript.printed =
        session.transcript.printed ++
          String.join ((sentencesFor grammar count session.source).map
            fun sentence => "  " ++ sentence ++ "\n") := by
  rw [execute_eq, read_generateLine hname hcount, run, perform_bind,
    perform_withGrammar hstored]
  cases count with
  | none =>
      rw [perform_generate (perform_readCount_none session)]
      exact ⟨rfl, rfl⟩
  | some text =>
      cases hread : Text.readInteger text with
      | error error =>
          rw [perform_generate_error hread, sentencesFor, Option.map_some,
            hread]
          exact ⟨rfl, String.append_empty.symm⟩
      | ok number =>
          rw [perform_generate (perform_readCount_ok hread session),
            sentencesFor, Option.map_some, hread]
          exact ⟨rfl, rfl⟩

theorem execute_conversionLine
    (hstored : session.collection.grammars.get? name = some grammar)
    (hlinear : grammar.IsRightLinear) (hname : IsWord name.toList)
    (hresult : IsWord result.toList) :
    (session.execute around (conversionLine name result)).2.collection =
      { session.collection with
        automata := session.collection.automata.insert result
          (grammar.recognizer hlinear) } := by
  rw [execute_eq, read_conversionLine hname hresult, run, perform_bind,
    perform_withGrammar hstored, Grammar.toAutomaton_eq_ok hlinear]
  rfl

theorem execute_testLine {automaton : Automaton} {word : String}
    (hstored : session.collection.automata.get? name = some automaton)
    (haccepts : automaton.accepts (Automaton.symbolsOf word) = true)
    (hname : IsWord name.toList) (hword : IsWord word.toList) :
    session.execute around (testLine name word) =
      (.ok true, session.print ("'" ++ word ++ "' is ACCEPTED\n")) := by
  have hverdict : "'" ++ word ++ "' is " ++ "ACCEPTED" ++ "\n" =
      "'" ++ word ++ "' is ACCEPTED\n" := by
    simp only [String.append_assoc]
    rfl
  rw [execute_eq, read_testLine hname hword, run, perform_bind,
    perform_withAutomaton hstored, haccepts, if_pos rfl, perform_printLine,
    hverdict]
  rfl

end Commands

/-- Every sentence that a grammar without longer left-hand sides shows is one
word, and the automaton that is made of the grammar then accepts it. -/
theorem generated_sentences_accepted (commands : List (φ × String))
    (source : σ) {name : String} {grammar : Grammar}
    (hstored :
      (after commands source).collection.grammars.get? name = some grammar)
    (hlinear : grammar.IsRightLinear) (hname : IsWord name.toList)
    {count : Option String} (hcount : ∀ text ∈ count, IsWord text.toList)
    {result : String} (hresult : IsWord result.toList) (around : φ) :
    (after (commands ++ [(around, generateLine name count)])
        source).transcript.printed =
      (after commands source).transcript.printed ++
        String.join
          ((sentencesFor grammar count (after commands source).source).map
            fun sentence => "  " ++ sentence ++ "\n") ∧
      ∀ sentence ∈
          sentencesFor grammar count (after commands source).source,
        IsWord sentence.toList ∧
          (after (commands ++ [(around, generateLine name count)] ++
              [(around, conversionLine name result)]) source).execute around
              (testLine result sentence) =
            (.ok true,
              (after (commands ++ [(around, generateLine name count)] ++
                [(around, conversionLine name result)]) source).print
                  ("'" ++ sentence ++ "' is ACCEPTED\n")) := by
  obtain ⟨hcollection, hprinted⟩ :=
    @execute_generateLine φ ε σ _ _ _ around _ _ _ hstored hname hcount
  rw [after_concat _ around (conversionLine name result), after_concat commands]
  refine ⟨hprinted, fun sentence hsentence => ?_⟩
  obtain ⟨word, hderives, rfl⟩ := derives_of_mem_sentencesFor hsentence
  have hvisible := (isVisible_after commands source).grammars _ _ hstored
  have hword := hvisible.isWord_join hderives
  have haccepts : (grammar.recognizer hlinear).accepts
      (Automaton.symbolsOf (String.join word)) = true := by
    rw [Automaton.symbolsOf_join hderives.length_symbol]
    exact Grammar.accepts_recognizer_iff.mpr hderives
  refine ⟨hword, execute_testLine ?_ haccepts hresult hword⟩
  rw [execute_conversionLine (hcollection ▸ hstored) hlinear hname hresult,
    Registry.get?_insert, if_pos rfl]

def crowdedFiles : FileSystem where
  bytes path :=
    if path = "crowded.txt" then .ok "S -> aX\nX -> bX\x27 | b".toUTF8.toList
    else .error (.notFound path)

def crowdedCommands : List (FileSystem × String) :=
  [(crowdedFiles, "load crowded.txt")]

theorem crowded_sentence_accepted :
    (after crowdedCommands (Congruential.ofSeed 7)).collection.grammars.get?
        "crowded" = some Grammar.crowdedGrammar ∧
      sentencesFor Grammar.crowdedGrammar (some "1")
        (after crowdedCommands (Congruential.ofSeed 7)).source = ["ab"] ∧
      ((after (crowdedCommands ++
          [(crowdedFiles, generateLine "crowded" (some "1"))] ++
            [(crowdedFiles, conversionLine "crowded" "machine")])
              (Congruential.ofSeed 7)).execute crowdedFiles
                (testLine "machine" "ab")).1 = .ok true := by
  have hstored : (after crowdedCommands
      (Congruential.ofSeed 7)).collection.grammars.get? "crowded" =
        some Grammar.crowdedGrammar := by decide +kernel
  have hlinear : Grammar.crowdedGrammar.IsRightLinear := by decide +kernel
  have hsentences : sentencesFor Grammar.crowdedGrammar (some "1")
      (after crowdedCommands (Congruential.ofSeed 7)).source = ["ab"] := by
    decide +kernel
  have hword : ∀ text ∈ ["crowded", "1", "machine"], IsWord text.toList := by
    simp only [isWord_iff]
    decide +kernel
  have haccepted := (generated_sentences_accepted crowdedCommands
    (Congruential.ofSeed 7) hstored hlinear (hword "crowded" (by decide))
    (by simpa using hword "1" (by decide)) (hword "machine" (by decide))
    crowdedFiles).2 "ab" (hsentences ▸ List.mem_cons_self)
  exact ⟨hstored, hsentences, congrArg Prod.fst haccepted.2⟩

end Session

end RightLinear
