import RightLinear.Proofs.Automaton.Lines

/-! Reading a text of automata back.  The lines of a block say what the
automaton is, and each block is read for itself, so a text of several blocks
gives the automata that were written, in their order. -/

namespace RightLinear.Automaton

namespace Format

open Text Document

variable {automaton : Automaton}

section Description

variable {lines : List Line} {state symbol : String} {edge : Transition}

theorem mem_states_description :
    state ∈ (description lines).states ↔
      (description lines).start = some state ∨ ListsState lines state ∨
        ListsAccepting lines state ∨
          ∃ edge, .transition edge ∈ lines ∧
            state ∈ [edge.source, edge.target] := by
  have hline : ∀ line : Line, state ∈ line.declaredStates ↔
      (∃ labels, line = .states labels ∧ state ∈ labels) ∨
        (∃ labels, line = .accept labels ∧ state ∈ labels) ∨
          ∃ edge, line = .transition edge ∧
            state ∈ [edge.source, edge.target] := by
    intro line
    cases line <;> simp [Line.declaredStates]
  have hstart : (description lines).states =
      (description lines).start.toList ++ lines.flatMap Line.declaredStates :=
    rfl
  rw [hstart, List.mem_append, Option.mem_toList, List.mem_flatMap]
  apply or_congr_right
  simp only [hline, ListsState, ListsAccepting]
  grind

theorem mem_alphabet_description :
    symbol ∈ (description lines).alphabet ↔ ListsSymbol lines symbol ∨
      ∃ edge, .transition edge ∈ lines ∧ symbol = edge.symbol := by
  have hline : ∀ line : Line, symbol ∈ line.declaredSymbols ↔
      (∃ symbols, line = .alphabet symbols ∧ symbol ∈ symbols) ∨
        ∃ edge, line = .transition edge ∧ symbol = edge.symbol := by
    intro line
    cases line <;> simp [Line.declaredSymbols]
  simp only [description, List.mem_flatMap, hline, ListsSymbol]
  grind

theorem mem_accepting_description :
    state ∈ (description lines).accepting ↔ ListsAccepting lines state := by
  have hline : ∀ line : Line, state ∈ line.accepting ↔
      ∃ labels, line = .accept labels ∧ state ∈ labels := by
    intro line
    cases line <;> simp [Line.accepting]
  simp only [description, List.mem_flatMap, hline, ListsAccepting]
  grind

theorem mem_transitions_description :
    edge.row ∈ (description lines).transitions ↔
      .transition edge ∈ lines := by
  have hline : ∀ line : Line, line.transition? = some edge ↔
      line = .transition edge := by
    intro line
    cases line <;> simp [Line.transition?]
  simp only [description, Transition.row_mem_map_row, List.mem_filterMap, hline,
    exists_eq_right]

end Description

section Described

variable {lines : List Line} (h : Describes lines automaton)
include h

theorem Describes.start_eq : (description lines).start = some automaton.start := by
  have hall : ∀ label ∈ lines.filterMap Line.start?,
      label = automaton.start := by
    intro label hlabel
    obtain ⟨line, hline, hstart⟩ := List.mem_filterMap.mp hlabel
    obtain rfl := Line.eq_start_of_start? hstart
    exact h.holds _ hline
  have hmem : automaton.start ∈ lines.filterMap Line.start? :=
    List.mem_filterMap.mpr ⟨_, h.start, rfl⟩
  obtain ⟨label, hlast⟩ := Option.isSome_iff_exists.mp
    (List.getLast?_isSome.mpr (List.ne_nil_of_mem hmem))
  rw [description]
  exact hlast.trans (congrArg some (hall label (List.mem_of_getLast? hlast)))

theorem Describes.transition_iff {edge : Transition} :
    .transition edge ∈ lines ↔ edge ∈ automaton.transitions :=
  ⟨fun hline => h.holds _ hline, h.transition edge⟩

theorem Describes.listsAccepting_iff {state : String} :
    ListsAccepting lines state ↔ state ∈ automaton.accepting := by
  refine ⟨?_, h.accepting state⟩
  rintro ⟨labels, hline, hstate⟩
  exact h.holds _ hline state hstate

theorem Describes.mem_states {state : String} :
    state ∈ (description lines).states ↔ state ∈ automaton.states := by
  simp only [mem_states_description, h.start_eq, h.listsAccepting_iff,
    h.transition_iff]
  constructor
  · rintro (hstart | ⟨labels, hline, hstate⟩ | haccepting |
      ⟨edge, hedge, hstate⟩)
    · exact Option.some.inj hstart ▸ automaton.start_mem
    · exact h.holds _ hline state hstate
    · exact automaton.accepting_mem state haccepting
    · rcases List.mem_pair.mp hstate with rfl | rfl
      · exact automaton.source_mem edge hedge
      · exact automaton.target_mem edge hedge
  · intro hstate
    rcases h.state state hstate with hlisted | rfl | haccepting | hused
    · exact .inr (.inl hlisted)
    · exact .inl rfl
    · exact .inr (.inr (.inl haccepting))
    · exact .inr (.inr (.inr hused))

theorem Describes.mem_alphabet {symbol : String} :
    symbol ∈ (description lines).alphabet ↔ symbol ∈ automaton.alphabet := by
  simp only [mem_alphabet_description, h.transition_iff]
  refine ⟨?_, h.symbol symbol⟩
  rintro (⟨symbols, hline, hsymbol⟩ | ⟨edge, hedge, rfl⟩)
  · exact h.holds _ hline symbol hsymbol
  · exact automaton.symbol_mem edge hedge

theorem Describes.wellFormed : (description lines).WellFormed where
  length_symbol := by
    intro symbol hsymbol
    exact automaton.length_symbol symbol (h.mem_alphabet.mp hsymbol)
  start_mem :=
    ⟨automaton.start, h.mem_states.mpr automaton.start_mem, h.start_eq⟩
  accepting_mem := by
    intro state hstate
    rw [mem_accepting_description, h.listsAccepting_iff] at hstate
    exact h.mem_states.mpr (automaton.accepting_mem state hstate)
  transition_mem := by
    intro row hrow
    obtain ⟨edge, hline, rfl⟩ := List.mem_map.mp hrow
    have hedge := h.transition_iff.mp
      (mem_transitions_description.mp (List.mem_map_of_mem hline))
    exact ⟨edge, rfl, h.mem_states.mpr (automaton.source_mem edge hedge),
      h.mem_states.mpr (automaton.target_mem edge hedge),
      h.mem_alphabet.mpr (automaton.symbol_mem edge hedge)⟩

theorem Describes.ofWellFormed_eq :
    ofWellFormed (description lines) h.wellFormed = automaton := by
  apply eq_of_fields
  · ext state
    rw [mem_states_ofWellFormed, h.mem_states]
  · ext symbol
    exact SortedSet.mem_ofList.trans h.mem_alphabet
  · ext edge
    rw [mem_transitions_ofWellFormed, mem_transitions_description,
      h.transition_iff]
  · exact Option.some.inj ((Option.some_get _).trans h.start_eq)
  · ext state
    rw [mem_accepting_ofWellFormed, mem_accepting_description,
      h.listsAccepting_iff]

end Described

section Blocks

variable {texts : List (List Char)} {automata : List Automaton}
  {blocks : List (List (List Char))}

theorem readLines_of_describes {lines : List Line}
    (hread : texts.mapM readLine = .ok lines)
    (h : Describes lines automaton) : readLines texts = .ok automaton := by
  have hstart : (description lines).start.isNone = false := by
    rw [h.start_eq]
    rfl
  rw [readLines, hread]
  simp only [bind, Except.bind, hstart, ofDescription_eq_ok h.wellFormed,
    h.ofWellFormed_eq]
  rfl

theorem readLines_of_isBlock (hwritable : Writable automaton)
    (h : IsBlock automaton texts) : readLines texts = .ok automaton := by
  obtain ⟨lines, hdescribes, htexts⟩ := h
  have hboth := (List.forall₂_and_left lines texts).mpr
    ⟨hdescribes.holds, htexts⟩
  have hread : texts.mapM readLine = .ok lines :=
    mapM_eq_ok_iff.mpr (hboth.imp fun line text hline =>
      readLine_of_lineText hwritable hline.1 hline.2).flip
  exact readLines_of_describes hread hdescribes

theorem isPlain_of_isBlock (hwritable : Writable automaton)
    (h : IsBlock automaton texts) :
    ∀ text ∈ texts, '\n' ∉ text ∧ ¬ "---".toList <:+: text := by
  obtain ⟨lines, hdescribes, htexts⟩ := h
  intro text htext
  obtain ⟨line, hline, hwritten⟩ := exists_mem_of_forall₂ htexts text htext
  have hplain := isPlain_of_holds hwritable (hdescribes.holds line hline)
  exact ⟨hwritten.not_mem_newline hplain, hwritten.no_separator hplain⟩

/-- A block is read, so there is something in it. -/
theorem visible_ne_nil_of_isBlock (hwritable : Writable automaton)
    (h : IsBlock automaton texts) : visible texts ≠ [] := by
  intro hnone
  have hread := readLines_of_isBlock hwritable h
  rw [← readLines_visible, hnone] at hread
  contradiction

theorem mapM_readLines_of_isBlock
    (hwritable : ∀ automaton ∈ automata, Writable automaton)
    (h : List.Forall₂ IsBlock automata blocks) :
    ((blocks.map visible).filter (!·.isEmpty)).mapM readLines =
      .ok automata := by
  have hboth := (List.forall₂_and_left automata blocks).mpr ⟨hwritable, h⟩
  have hvisible : ∀ texts ∈ blocks, visible texts ≠ [] := by
    intro texts htexts
    obtain ⟨automaton, -, hwritable, hblock⟩ :=
      exists_mem_of_forall₂ hboth texts htexts
    exact visible_ne_nil_of_isBlock hwritable hblock
  have hall : (blocks.map visible).filter (!·.isEmpty) =
      blocks.map visible := by
    apply List.filter_eq_self.mpr
    rintro _ hmem
    obtain ⟨texts, htexts, rfl⟩ := List.mem_map.mp hmem
    simpa using hvisible texts htexts
  rw [hall, mapM_eq_ok_iff, List.forall₂_map_left_iff]
  refine (hboth.imp fun automaton texts hblock => ?_).flip
  exact (readLines_visible texts).trans
    (readLines_of_isBlock hblock.1 hblock.2)

end Blocks

/-- A text that was written for some automata is read as these automata. -/
theorem readAll_of_isText {automata : List Automaton} {text : String}
    (hwritable : ∀ automaton ∈ automata, Writable automaton)
    (h : IsText automata text) : readAll text = .ok automata := by
  obtain ⟨blocks, hblocks, rfl⟩ := h
  have hboth := (List.forall₂_and_left automata blocks).mpr
    ⟨hwritable, hblocks⟩
  have hplain : ∀ texts ∈ blocks, ∀ text ∈ texts,
      '\n' ∉ text ∧ ¬ "---".toList <:+: text := by
    intro texts htexts
    obtain ⟨automaton, -, hwritable, hblock⟩ :=
      exists_mem_of_forall₂ hboth texts htexts
    exact isPlain_of_isBlock hwritable hblock
  have hlines : ∀ line ∈ ["---".toList].intercalate blocks, '\n' ∉ line := by
    intro line hline
    rcases mem_intercalate hline with rfl | ⟨texts, htexts, hin⟩
    · decide
    · exact (hplain texts htexts line hin).1
  have halone : ∀ line ∈ ["---".toList].intercalate blocks,
      StandsAlone "---".toList line := by
    intro line hline hoccurs
    rcases mem_intercalate hline with rfl | ⟨texts, htexts, hin⟩
    · decide
    · exact absurd hoccurs (hplain texts htexts line hin).2
  rw [readAll_lines hlines halone]
  cases blocks with
  | nil =>
      cases hblocks
      rfl
  | cons first rest =>
      rw [splitOnP_intercalate (by decide) (List.cons_ne_nil first rest)]
      · exact mapM_readLines_of_isBlock hwritable hblocks
      · intro texts htexts line hin
        rw [beq_eq_false_iff_ne]
        intro htrim
        exact (hplain texts htexts line hin).2 (infix_of_trim_eq htrim)

section Dashed

open Grammar.Format (IsGap isGap_nil isGap_space)

/-- States and symbols that look like arrows, separators and comments. -/
def dashed : Automaton where
  states := .ofList ["--", "-", ">"]
  alphabet := .ofList ["-", "#"]
  transitions := .ofList [⟨"--", "-", ">"⟩, ⟨">", "#", "-"⟩]
  start := "--"
  accepting := .ofList [">"]
  length_symbol := by decide +kernel
  start_mem := by decide +kernel
  accepting_mem := by decide +kernel
  source_mem := by decide +kernel
  target_mem := by decide +kernel
  symbol_mem := by decide +kernel

theorem dashed_writable : Writable dashed where
  label := by
    have hall : ∀ state ∈ dashed.states, state.toList ≠ [] ∧
        state.toList.all (!isBlank ·) = true ∧
          ¬ "---".toList <:+: state.toList ∧ ¬ "->".toList <:+: state.toList ∧
            ¬ "#".toList <+: state.toList ∧
              ∀ keyword ∈ keywords, ¬ keyword <+: state.toList := by
      decide +kernel
    intro state hstate
    obtain ⟨hne, hvisible, hseparator, harrow, hcomment, hkeyword⟩ :=
      hall state hstate
    exact ⟨hne, visible_of_all hvisible, hseparator, harrow, hcomment,
      hkeyword⟩
  symbol := by
    have hall : ∀ symbol ∈ dashed.alphabet,
        symbol.toList.all (!isBlank ·) = true := by decide +kernel
    exact fun symbol hsymbol => visible_of_all (hall symbol hsymbol)

def dashedLines : List Line :=
  [.accept [">"], .transition ⟨"--", "-", ">"⟩, .blank, .start "--",
    .transition ⟨">", "#", "-"⟩]

def dashedTexts : List (List Char) :=
  ["accept: >", "  -- -> - -> >", "", "start: --", "> # -"].map String.toList

theorem dashedLines_describes : Describes dashedLines dashed where
  holds := by simp [dashedLines, Holds, dashed]
  start := by simp [dashedLines, dashed]
  accepting := by simp [ListsAccepting, dashedLines, dashed]
  transition := by simp [dashedLines, dashed]
  state := by simp [ListsState, dashedLines, dashed]
  symbol := by simp [ListsSymbol, dashedLines, dashed]

theorem dashedTexts_written :
    List.Forall₂ LineText dashedLines dashedTexts := by
  have hempty := isGap_nil
  have hblank := isGap_space
  have hne : [' '] ≠ [] := List.cons_ne_nil _ _
  have hindent : IsGap [' ', ' '] :=
    List.forall_mem_cons.mpr ⟨⟨rfl, by decide⟩, hblank⟩
  have harrows : TransitionText ⟨"--", "-", ">"⟩ "-- -> - -> >".toList :=
    .arrows (.cons _ hblank hne (.cons _ hblank hne (.cons _ hblank hne
      (.cons _ hblank hne (.single _)))))
  have hplain : TransitionText ⟨">", "#", "-"⟩ "> # -".toList :=
    .plain (.cons _ hblank hne (.cons _ hblank hne (.single _)))
  have haccept : ListText "accept:".toList [">"] "accept: >".toList :=
    .values hblank (.single ">".toList)
  refine .cons ?_ (.cons ?_ (.cons ?_ (.cons ?_ (.cons ?_ .nil))))
  · exact .indented hempty (.accept haccept) hempty
  · exact .indented hindent (.transition harrows) hempty
  · exact .indented hempty .blank hempty
  · exact .indented hempty (.start "--" hblank) hempty
  · exact .indented hempty (.transition hplain) hempty

theorem dashed_readAll :
    readAll ("accept: >\n  -- -> - -> >\n\nstart: --\n> # -\n---\n" ++
      "accept: >\n  -- -> - -> >\n\nstart: --\n> # -") =
        .ok [dashed, dashed] := by
  have hblock : IsBlock dashed dashedTexts :=
    ⟨dashedLines, dashedLines_describes, dashedTexts_written⟩
  have hwritable : ∀ automaton ∈ [dashed, dashed], Writable automaton :=
    List.forall_mem_cons.mpr
      ⟨dashed_writable, List.forall_mem_singleton.mpr dashed_writable⟩
  refine readAll_of_isText hwritable
    ⟨[dashedTexts, dashedTexts], .cons hblock (.cons hblock .nil), ?_⟩
  decide +kernel

end Dashed

end Format

end RightLinear.Automaton
