import RightLinear.Proofs.Collection.Sections
import RightLinear.Proofs.Session.Lines
import RightLinear.Proofs.Session.Reachable

/-! Names of what is stored.  They come from headers, from paths and from
commands, none of which can hold a blank, so every name but the empty one can be
given in a command.  The empty name is that of a file of which the name is
nothing but an extension. -/

namespace RightLinear

open Text Collection
open Automaton.Format (IsWord)

section Characters

theorem blankRanges_apart :
    (alphanumericRanges.all fun range => blankRanges.all fun blanks =>
      Nat.blt range.2 blanks.1 || Nat.blt blanks.2 range.1) = true := by
  decide +kernel

theorem isBlank_of_isWordCharacter {character : Char}
    (h : isWordCharacter character = true) : isBlank character = false := by
  rw [isWordCharacter, Bool.or_eq_true, beq_iff_eq] at h
  rcases h with rfl | halphanumeric
  · rfl
  · obtain ⟨range, hrange, hinside⟩ := List.any_eq_true.mp halphanumeric
    rw [Bool.and_eq_true, decide_eq_true_eq, decide_eq_true_eq] at hinside
    have hapart := List.all_eq_true.mp blankRanges_apart range hrange
    exact isBlank_of_apart hapart hinside.1 hinside.2

theorem isBlank_of_isDigit {character : Char} (h : character.isDigit = true) :
    isBlank character = false := by
  apply Grammar.Format.isBlank_of_isSuffix
  rw [Grammar.Token.isSuffix, h, Bool.true_or]

end Characters

section Sources

variable {name path : String} {text : List Char}

theorem isWord_of_isSectionName (h : isSectionName name.toList = true) :
    IsWord name.toList := by
  refine ⟨?_, fun character hcharacter => isBlank_of_isWordCharacter
    (isWordCharacter_of_isSectionName h character hcharacter)⟩
  intro hempty
  rw [hempty] at h
  contradiction

/-- Sections begin at header lines. -/
theorem isSectionName_of_mem_divide {lines : List (List Char)}
    {found : String × List (List Char)} (h : found ∈ (divide lines).2) :
    isSectionName found.1.toList = true := by
  induction lines with
  | nil => contradiction
  | cons line lines ih =>
      rw [divide] at h
      dsimp only at h
      split at h
      · next name hheader =>
          rcases List.mem_cons.mp h with rfl | hlater
          · exact (headerName?_eq_some_iff.mp hheader).isSectionName
          · exact ih hlater
      · exact ih h

/-- A definition has the name of its header, or that of a text without
headers. -/
theorem name_of_mem_definitions {definition : Section}
    (h : definition ∈ definitions text name) :
    IsWord definition.name.toList ∨ sections text = [] ∧ definition.name = name := by
  have hmem := (List.mem_filter.mp h).1
  cases hsections : sections text with
  | nil =>
      rw [hsections] at hmem
      exact .inr ⟨rfl, congrArg Section.name (List.mem_singleton.mp hmem)⟩
  | cons first later =>
      have hsection : definition ∈ sections text := by
        rw [hsections] at hmem
        rwa [hsections]
      obtain ⟨found, hfound, rfl⟩ := List.mem_map.mp hsection
      exact .inl (isWord_of_isSectionName (isSectionName_of_mem_divide hfound))

theorem mem_of_mem_fileStem {character : Char}
    (h : character ∈ (fileStem path).toList) : character ∈ path.toList := by
  have hname : ∀ other ∈ path.toList.reverse.takeWhile (· != '/'),
      other ∈ path.toList := fun other hother =>
    List.mem_reverse.mp ((List.takeWhile_sublist _).mem hother)
  rw [fileStem] at h
  split at h
  · next stem hstem =>
      rw [String.toList_ofList, List.mem_reverse] at h
      apply hname
      apply (List.dropWhile_sublist _).mem
      rw [hstem]
      exact List.mem_cons_of_mem _ h
  · rw [String.toList_ofList, List.mem_reverse] at h
    exact hname _ h

theorem unbroken_numberedName (h : Unbroken name) (index : Nat) :
    Unbroken (numberedName name index) := by
  obtain ⟨digits, hdigits, hname⟩ := exists_digits name index
  rw [Unbroken, hname]
  exact List.forall_mem_append.mpr
    ⟨h, fun digit hdigit => isBlank_of_isDigit (hdigits digit hdigit)⟩

theorem isWord_numberedName (h : IsWord name.toList) (index : Nat) :
    IsWord (numberedName name index).toList := by
  obtain ⟨digits, -, hname⟩ := exists_digits name index
  refine ⟨?_, unbroken_numberedName h.visible index⟩
  rw [hname]
  exact List.append_ne_nil_of_left_ne_nil h.ne_nil _

end Sources

namespace Session

/-- What all words have, and all names after files without headers, every
stored name has. -/
theorem keeps_names {property : String → Prop} {files : FileSystem}
    {line : String} (hword : ∀ name, IsWord name.toList → property name)
    (hstem : ∀ path text, Command.read line = .load path →
      files.text path = .ok text → sections text.toList = [] →
        ∀ index, property (numberedName (fileStem path) index)) :
    Keeps (fun name _ => property name) (fun name _ => property name) files
      (Command.read line) := by
  have hresult : ∀ {result}, result ∈ (Command.read line).names →
      property result := fun hmem =>
    hword _ (Command.isWord_names_read line _ hmem)
  constructor
  · intro path found hread hload
    obtain ⟨text, htext, rfl⟩ := loadFile_eq_ok hload
    have hname : ∀ definition ∈ definitions text.toList (fileStem path),
        ∀ index, property (numberedName definition.name index) := by
      intro definition hdefinition index
      rcases name_of_mem_definitions hdefinition with hheader | ⟨hnone, hdefault⟩
      · exact hword _ (isWord_numberedName hheader index)
      · rw [hdefault]
        exact hstem path text hread htext hnone index
    exact all_load
      (fun definition hdefinition _ _ => hname definition hdefinition)
      (fun definition hdefinition _ _ => hname definition hdefinition 0)
  · intro name result automaton hread _
    exact hresult (hread ▸ List.mem_cons_of_mem _ List.mem_cons_self)
  · intro name result automaton hread _
    exact hresult (hread ▸ List.mem_cons_of_mem _ List.mem_cons_self)
  · intro name result grammar hlinear hread _
    exact hresult (hread ▸ List.mem_cons_of_mem _ List.mem_cons_self)

/-- The path of a command is a word, and its stem is a part of it. -/
theorem unbroken_fileStem {line path : String}
    (hread : Command.read line = .load path) : Unbroken (fileStem path) := by
  have hpath : IsWord path.toList := by
    apply Command.isWord_names_read line
    rw [hread]
    exact List.mem_cons_self
  exact fun character hcharacter =>
    hpath.visible character (mem_of_mem_fileStem hcharacter)

variable {φ ε σ : Type} [Surroundings φ ε] [RandomSource σ]

theorem unbroken_names (commands : List (φ × String)) (source : σ) :
    (after commands source).collection.All (fun name _ => Unbroken name)
      fun name _ => Unbroken name := by
  refine all_after (fun command _ => keeps_names (fun _ h => h.visible) ?_) source
  intro path text hread _ _ index
  exact unbroken_numberedName (unbroken_fileStem hread) index

/-- A text without headers is loaded from a path with nothing to name it
after. -/
def LoadsUnnamed (around : φ) (line : String) : Prop :=
  ∃ path text, Command.read line = .load path ∧
    (Surroundings.files around).text path = .ok text ∧
      sections text.toList = [] ∧ fileStem path = ""

theorem isWord_names {commands : List (φ × String)}
    (hnamed : ∀ command ∈ commands, ¬ LoadsUnnamed command.1 command.2)
    (source : σ) :
    (after commands source).collection.All (fun name _ => IsWord name.toList)
      fun name _ => IsWord name.toList := by
  refine all_after (fun command hcommand => keeps_names (fun _ h => h) ?_) source
  intro path text hread htext hnone index
  have hne : fileStem path ≠ "" := fun hempty =>
    hnamed command hcommand ⟨path, text, hread, htext, hnone, hempty⟩
  exact isWord_numberedName
    (isWord_iff.mpr ⟨hne, unbroken_fileStem hread⟩) index

/-- No stored name holds a blank.  Unless a text without headers was loaded from
a path with nothing to name it after, no name is empty either, and there are
commands that refer to each stored item. -/
theorem stored_items_addressable (commands : List (φ × String))
    (source : σ) :
    (∀ name, name ∈ (after commands source).collection.automata.names ∨
        name ∈ (after commands source).collection.grammars.names →
      Unbroken name) ∧
      ((∀ command ∈ commands, ¬ LoadsUnnamed command.1 command.2) →
        (∀ name ∈ (after commands source).collection.automata.names,
          name ≠ "" ∧
            Command.read (" ".intercalate ["show", name]) =
              .showAutomaton name ∧
            Command.read (" ".intercalate ["delete", name]) =
              .delete name) ∧
          ∀ name ∈ (after commands source).collection.grammars.names,
            name ≠ "" ∧
              Command.read (" ".intercalate ["show_grammar", name]) =
                .showGrammar name ∧
              Command.read (" ".intercalate ["delete", name]) =
                .delete name) := by
  constructor
  · have hnames := unbroken_names commands source
    rintro name (hautomaton | hgrammar)
    · exact hnames.automata.of_mem_names hautomaton
    · exact hnames.grammars.of_mem_names hgrammar
  · intro hnamed
    have hnames := isWord_names hnamed source
    have hread : ∀ {verb name : String}, verb ∈ Command.verbs →
        IsWord name.toList → Command.read (" ".intercalate [verb, name]) =
          Command.ofWords verb [name] := fun hverb hname =>
      Command.read_verb hverb (List.forall_mem_singleton.mpr hname)
    refine ⟨fun name hautomaton => ?_, fun name hgrammar => ?_⟩
    · have hname := hnames.automata.of_mem_names hautomaton
      exact ⟨(isWord_iff.mp hname).1, hread (by simp [Command.verbs]) hname,
        hread (by simp [Command.verbs]) hname⟩
    · have hname := hnames.grammars.of_mem_names hgrammar
      exact ⟨(isWord_iff.mp hname).1, hread (by simp [Command.verbs]) hname,
        hread (by simp [Command.verbs]) hname⟩

/-- One automaton, under a name with an extension and under a name that is
nothing but an extension. -/
def machineFiles : FileSystem where
  bytes path :=
    if path = "machine.txt" ∨ path = ".machine" then
      .ok "start: p".toUTF8.toList
    else .error (.notFound path)

theorem machine_addressable :
    (∀ command ∈ [(machineFiles, "load machine.txt")],
        ¬ LoadsUnnamed command.1 command.2) ∧
      (after [(machineFiles, "load machine.txt")]
        (Congruential.ofSeed 7)).collection.automata.names = ["machine"] ∧
      Command.read (" ".intercalate ["show", "machine"]) =
        .showAutomaton "machine" ∧
      Command.read (" ".intercalate ["delete", "machine"]) =
        .delete "machine" := by
  have hread : Command.read "load machine.txt" = .load "machine.txt" := by
    decide +kernel
  have hnamed : ∀ command ∈ [(machineFiles, "load machine.txt")],
      ¬ LoadsUnnamed command.1 command.2 := by
    rw [List.forall_mem_singleton]
    rintro ⟨path, text, hpath, -, -, hempty⟩
    obtain rfl := Command.load.inj (hread.symm.trans hpath)
    revert hempty
    decide +kernel
  have hstored : (after [(machineFiles, "load machine.txt")]
      (Congruential.ofSeed 7)).collection.automata.names = ["machine"] := by
    decide +kernel
  have haddress := ((stored_items_addressable
    [(machineFiles, "load machine.txt")] (Congruential.ofSeed 7)).2 hnamed).1
      "machine" (hstored ▸ List.mem_cons_self)
  exact ⟨hnamed, hstored, haddress.2⟩

/-- The empty name stands in no command. -/
theorem hidden_machine_not_addressable :
    (after [(machineFiles, "load .machine")]
        (Congruential.ofSeed 7)).collection.automata.names = [""] ∧
      ∀ line, "" ∉ (Command.read line).names := by
  refine ⟨by decide +kernel, fun line hmem => ?_⟩
  exact (Command.isWord_names_read line "" hmem).ne_nil rfl

end Session

end RightLinear
