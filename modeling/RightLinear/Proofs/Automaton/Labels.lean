import RightLinear.Proofs.Automaton.Lines

/-! Labels of automata that are read from a text.  A label is a word of its
line, a part beside an arrow, or what follows `start:`, each without the blanks
around it.  Words are never empty, and an empty part is refused, but a start
line without anything behind its keyword gives the empty state. -/

namespace RightLinear

open Text

theorem unbroken_of_isTrimmed {symbol : String} (hlength : symbol.length = 1)
    (h : IsTrimmed symbol.toList) : Unbroken symbol := by
  rw [← String.length_toList, List.length_eq_one_iff] at hlength
  obtain ⟨character, hcharacter⟩ := hlength
  rw [hcharacter] at h
  rw [Unbroken, hcharacter]
  exact List.forall_mem_singleton.mpr (h.head character rfl)

namespace Automaton

/-- A label that can be seen, without blanks around it. -/
structure IsVisibleLabel (label : String) : Prop where
  ne_empty : label ≠ ""
  isTrimmed : IsTrimmed label.toList

theorem isVisibleLabel_ofList {label : List Char} (hne : label ≠ [])
    (htrimmed : IsTrimmed label) : IsVisibleLabel (String.ofList label) where
  ne_empty := by
    intro hempty
    rw [← String.toList_inj, String.toList_ofList] at hempty
    exact hne hempty
  isTrimmed := by rwa [String.toList_ofList]

/-- What a start line gives, if the line is one. -/
def startLabel? (line : List Char) : Option String :=
  (after? "start:".toList (trim line)).map (String.ofList ∘ trim)

def startLabels (block : List Char) : List String :=
  (lines block).filterMap startLabel?

theorem isTrimmed_of_mem_startLabels {block : List Char} {label : String}
    (h : label ∈ startLabels block) : IsTrimmed label.toList := by
  obtain ⟨line, -, hline⟩ := List.mem_filterMap.mp h
  obtain ⟨rest, -, rfl⟩ := Option.map_eq_some_iff.mp hline
  rw [Function.comp_apply, String.toList_ofList]
  exact isTrimmed_trim rest

namespace Document

section Lines

variable {text : List Char} {line : Line}

theorem ne_nil_and_isTrimmed_of_mem_words {word : List Char}
    (h : word ∈ words text) : word ≠ [] ∧ IsTrimmed word := by
  obtain ⟨hpiece, hne⟩ := List.mem_filter.mp h
  exact ⟨by simpa using hne,
    isTrimmed_of_forall (separates_eq_false_of_mem hpiece)⟩

theorem isVisibleLabel_labels (text : List Char) :
    ∀ label ∈ labels text, IsVisibleLabel label := by
  rw [labels, List.forall_mem_map]
  intro word hword
  obtain ⟨hne, htrimmed⟩ := ne_nil_and_isTrimmed_of_mem_words hword
  exact isVisibleLabel_ofList hne htrimmed

/-- Either way to write a transition gives trimmed parts, and an empty part is
refused. -/
theorem isVisibleLabel_of_readTransition (h : readTransition text = .ok line) :
    ∃ edge, line = .transition edge ∧
      ∀ label ∈ edge.row, IsVisibleLabel label := by
  have hparts : ∀ part ∈
      if contains "->".toList text then (splitOn "->".toList text).map trim
      else words text, IsTrimmed part := by
    split
    · rw [List.forall_mem_map]
      exact fun piece _ => isTrimmed_trim piece
    · exact fun part hpart => (ne_nil_and_isTrimmed_of_mem_words hpart).2
  rw [readTransition] at h
  split at h
  · next source symbol target hthree =>
      rw [hthree] at hparts
      split at h
      · contradiction
      · next hfilled =>
          have hne : ∀ part ∈ [source, symbol, target], part ≠ [] := by
            simpa [and_assoc] using hfilled
          refine ⟨_, (Except.ok.inj h).symm, ?_⟩
          exact List.forall_mem_map.mpr fun part hpart =>
            isVisibleLabel_ofList (hne part hpart) (hparts part hpart)
  · contradiction

theorem isVisibleLabel_of_readLine (h : readLine text = .ok line) :
    (∀ label ∈ line.declaredStates, IsVisibleLabel label) ∧
      ∀ label ∈ line.declaredSymbols, IsVisibleLabel label := by
  rcases readLine_cases h with rfl | ⟨rest, -, rfl⟩ | ⟨rest, -, rfl⟩ |
    ⟨rest, -, rfl⟩ | ⟨rest, -, rfl⟩ | htransition
  · exact ⟨List.forall_mem_nil _, List.forall_mem_nil _⟩
  · exact ⟨List.forall_mem_nil _, isVisibleLabel_labels rest⟩
  · exact ⟨isVisibleLabel_labels rest, List.forall_mem_nil _⟩
  · exact ⟨List.forall_mem_nil _, List.forall_mem_nil _⟩
  · exact ⟨isVisibleLabel_labels rest, List.forall_mem_nil _⟩
  · obtain ⟨edge, rfl, hedge⟩ := isVisibleLabel_of_readTransition htransition
    have hsource := hedge edge.source (by simp [Transition.row])
    have hsymbol := hedge edge.symbol (by simp [Transition.row])
    have htarget := hedge edge.target (by simp [Transition.row])
    have hstates : ∀ label ∈ [edge.source, edge.target],
        IsVisibleLabel label :=
      List.forall_mem_cons.mpr
        ⟨hsource, List.forall_mem_singleton.mpr htarget⟩
    exact ⟨hstates, List.forall_mem_singleton.mpr hsymbol⟩

theorem start?_of_readLine (h : readLine text = .ok line) :
    line.start? = startLabel? text := by
  cases hstart : after? "start:".toList (trim text) with
  | some rest =>
      rw [Format.readLine_of_after? hstart] at h
      obtain rfl := Except.ok.inj h
      rw [startLabel?, hstart]
      rfl
  | none =>
      rw [startLabel?, hstart, Option.map_none, Option.eq_none_iff_forall_ne_some]
      intro label hlabel
      obtain rfl := Line.eq_start_of_start? hlabel
      obtain ⟨rest, hsome, -⟩ := after?_of_readLine_start h
      rw [hstart] at hsome
      contradiction

end Lines

end Document

section Blocks

open Document

variable {block : List Char} {automaton : Automaton} {found : List Line}

theorem start_description (h : (lines block).mapM readLine = .ok found) :
    (description found).start = (startLabels block).getLast? :=
  congrArg List.getLast?
    (filterMap_of_mapM (fun _ _ => start?_of_readLine) h)

theorem label_of_mem_states (h : (lines block).mapM readLine = .ok found)
    {state : String} (hstate : state ∈ (description found).states) :
    (startLabels block).getLast? = some state ∨ IsVisibleLabel state := by
  rcases List.mem_append.mp hstate with hstart | hdeclared
  · left
    rw [← start_description h]
    exact Option.mem_toList.mp hstart
  · obtain ⟨line, hline, hlabel⟩ := List.mem_flatMap.mp hdeclared
    obtain ⟨text, -, hread⟩ := exists_mem_of_mapM h line hline
    exact .inr ((isVisibleLabel_of_readLine hread).1 state hlabel)

theorem label_of_mem_alphabet (h : (lines block).mapM readLine = .ok found)
    {symbol : String} (hsymbol : symbol ∈ (description found).alphabet) :
    IsVisibleLabel symbol := by
  obtain ⟨line, hline, hlabel⟩ := List.mem_flatMap.mp hsymbol
  obtain ⟨text, -, hread⟩ := exists_mem_of_mapM h line hline
  exact (isVisibleLabel_of_readLine hread).2 symbol hlabel

/-- The labels of an automaton that is read from a block.  The last start line
counts, and only what it gives may be empty. -/
structure HasLabels (block : List Char) (automaton : Automaton) : Prop where
  start : (startLabels block).getLast? = some automaton.start
  state : ∀ state ∈ automaton.states, IsTrimmed state.toList
  empty_iff : "" ∈ automaton.states ↔ automaton.start = ""
  symbol : ∀ symbol ∈ automaton.alphabet, Unbroken symbol

theorem hasLabels_of_readBlock (h : readBlock block = .ok automaton) :
    HasLabels block automaton := by
  obtain ⟨found, hlines, hformed, rfl⟩ := exists_of_readLines h
  have hstart : (startLabels block).getLast? =
      some (ofWellFormed (description found) hformed).start := by
    rw [← start_description hlines]
    exact (Option.some_get _).symm
  have hstate : ∀ state ∈ (ofWellFormed (description found) hformed).states,
      (ofWellFormed (description found) hformed).start = state ∨
        IsVisibleLabel state := by
    intro state hmem
    rcases label_of_mem_states hlines (mem_states_ofWellFormed.mp hmem) with
      hlast | hvisible
    · exact .inl (Option.some.inj (hstart.symm.trans hlast))
    · exact .inr hvisible
  refine ⟨hstart, ?_, ?_, ?_⟩
  · intro state hmem
    rcases hstate state hmem with rfl | hvisible
    · exact isTrimmed_of_mem_startLabels (List.mem_of_getLast? hstart)
    · exact hvisible.isTrimmed
  · constructor
    · intro hempty
      exact (hstate "" hempty).resolve_right fun hvisible =>
        hvisible.ne_empty rfl
    · intro hempty
      exact hempty ▸ Automaton.start_mem _
  · intro symbol hsymbol
    have hvisible := label_of_mem_alphabet hlines (SortedSet.mem_ofList.mp hsymbol)
    exact unbroken_of_isTrimmed (Automaton.length_symbol _ symbol hsymbol)
      hvisible.isTrimmed

end Blocks

theorem unbroken_of_readAll {text : String} {automata : List Automaton}
    (h : readAll text = .ok automata) :
    ∀ automaton ∈ automata, ∀ symbol ∈ automaton.alphabet, Unbroken symbol := by
  intro automaton hautomaton
  obtain ⟨block, -, hread⟩ := exists_mem_of_mapM h automaton hautomaton
  exact (hasLabels_of_readBlock hread).symbol

/-- A text with a definition without a start line is refused.  In what is read,
all labels are trimmed, symbols are visible, and a state is empty exactly if it
is the start and the last start line gives nothing. -/
theorem readAll_labels (text : String) :
    (∀ block ∈ Document.blocks text.toList, startLabels block = [] →
      ∃ failure, readAll text = .error failure) ∧
    ∀ automata, readAll text = .ok automata →
      List.Forall₂ HasLabels (Document.blocks text.toList) automata := by
  have hread : ∀ automata, readAll text = .ok automata →
      List.Forall₂ HasLabels (Document.blocks text.toList) automata :=
    fun automata hautomata => (mapM_eq_ok_iff.mp hautomata).imp
      fun _ _ => hasLabels_of_readBlock
  refine ⟨?_, hread⟩
  intro block hblock hnone
  cases htext : readAll text with
  | error failure => exact ⟨failure, rfl⟩
  | ok automata =>
      obtain ⟨automaton, -, hlabels⟩ :=
        exists_mem_of_forall₂ (hread automata htext).flip block hblock
      have hstart := hlabels.start
      rw [hnone] at hstart
      contradiction

/-- Two definitions, the second with an empty start; and one without a start. -/
theorem spareStart_labels :
    (∃ automata, readAll "start: p\np -> a -> q r\n---\naccept: x\nstart:" =
        .ok automata ∧
      List.Forall₂ HasLabels (Document.blocks
        "start: p\np -> a -> q r\n---\naccept: x\nstart:".toList) automata) ∧
    startLabels "p a p".toList = [] ∧
      ∃ failure, readAll "start: p\n---\np a p" = .error failure := by
  have hsome : (readAll
      "start: p\np -> a -> q r\n---\naccept: x\nstart:").toOption.isSome =
        true := by
    decide +kernel
  obtain ⟨automata, hautomata⟩ := Option.isSome_iff_exists.mp hsome
  have hread := eq_ok_of_toOption hautomata
  have hnone : startLabels "p a p".toList = [] := by decide +kernel
  exact ⟨⟨automata, hread, (readAll_labels _).2 automata hread⟩, hnone,
    (readAll_labels _).1 "p a p".toList (by decide +kernel) hnone⟩

/-- A start line with nothing behind its keyword is taken for a start. -/
theorem bareStart_accepted :
    ∃ automaton, readAll "start:" = .ok [automaton] ∧
      "" ∈ automaton.states := by
  have hstarts : (readAll "start:").toOption.map (List.map Automaton.start) =
      some [""] := by
    decide +kernel
  obtain ⟨automata, hread, hone⟩ := Option.map_eq_some_iff.mp hstarts
  obtain ⟨automaton, rfl, hempty⟩ := List.map_eq_singleton_iff.mp hone
  exact ⟨automaton, eq_ok_of_toOption hread, hempty ▸ automaton.start_mem⟩

end Automaton

end RightLinear
