import RightLinear.Proofs.Automaton.Blocks
import RightLinear.Proofs.Collection.Detect
import RightLinear.Proofs.Collection.Sections

/-! Texts without headers that hold automata.  A block is only read if one of
its lines gives the start, and such a line is a keyword line for the guess as
well, so a text of automata is never taken for a grammar. -/

namespace RightLinear.Collection

open Text

variable {text : String} {automata : List Automaton}

/-- What can be read as automata has a line that gives a start. -/
theorem exists_startLine
    (halone : ∀ line ∈ lines text.toList, StandsAlone "---".toList line)
    (hread : Automaton.readAll text = .ok automata) (hne : automata ≠ []) :
    ∃ line ∈ contentLines text.toList, "start:".toList <+: line := by
  have hlines := Automaton.readAll_lines
    (fun line hline => not_mem_of_mem_lines hline) halone
  rw [intercalate_lines, String.ofList_toList, hread] at hlines
  obtain ⟨automaton, rest, rfl⟩ := List.exists_cons_of_ne_nil hne
  obtain ⟨group, hgroup, hautomaton⟩ :=
    exists_mem_of_mapM hlines.symm automaton List.mem_cons_self
  obtain ⟨line, hline, label, hstart⟩ :=
    Automaton.Document.exists_start_of_readLines hautomaton
  obtain ⟨hbegins, hhead⟩ := Automaton.Document.prefix_of_readLine_start hstart
  obtain ⟨whole, hwhole, rfl⟩ :=
    List.mem_map.mp (List.mem_filter.mp hgroup).1
  obtain ⟨hvisible, source, hsource, rfl⟩ := mem_visible.mp hline
  rw [trim_trim] at hbegins hhead
  refine ⟨trim source, mem_contentLines.mpr ⟨?_, hhead⟩, hbegins⟩
  exact mem_visible.mpr
    ⟨hvisible, source, mem_of_mem_splitOnP hwhole source hsource, rfl⟩

/-- A text of automata is loaded as these automata, under its own name and
numbered names, all distinct, and nothing is reported. -/
theorem load_automata (hheadless : IsHeadless text.toList)
    (halone : ∀ line ∈ lines text.toList, StandsAlone "---".toList line)
    (hread : Automaton.readAll text = .ok automata) (hne : automata ≠ [])
    (name : String) :
    (load text name).refusals = [] ∧
      (load text name).collection.grammars = ∅ ∧
        (load text name).collection.automata.entries =
          (automata.zipIdx.map fun (automaton, index) =>
            (numberedName name index, automaton)) ∧
          (load text name).collection.automata.names.Nodup := by
  obtain ⟨line, hline, hbegins⟩ := exists_startLine halone hread hne
  have hkind : looksLikeAutomaton (trim text.toList) = true := by
    rw [looksLikeAutomaton_trim]
    exact looksLikeAutomaton_of_keyword hline
      ⟨"start:".toList, by simp [automatonKeywords], hbegins⟩
  have hvisible := trim_ne_nil_of_mem_contentLines hline
  have htrimmed : Automaton.readAll (String.ofList (trim text.toList)) =
      .ok automata := by
    rw [Automaton.readAll_trim, String.ofList_toList, hread]
  rw [load_headless hheadless hvisible, addDefinition]
  simp only [hkind, if_true, htrimmed, addAutomata_eq]
  exact ⟨trivial, rfl, Registry.entries_insertAll (nodup_numbered name automata),
    Registry.nodup _⟩

/-- Two blocks with marks of grammars in a comment and in labels. -/
def pairText : String :=
  "# A -> b | c ::= d\n  start: p|q\naccept: r->x\np|q a r\n --- \nstart: ::="

theorem pairText_load :
    (load pairText "pair").collection.automata.names = ["pair", "pair1"] ∧
      (load pairText "pair").collection.grammars = ∅ ∧
        (load pairText "pair").refusals = [] := by
  have hheadless : IsHeadless pairText.toList :=
    isHeadless_iff.mpr (by decide +kernel)
  have halone : ∀ line ∈ lines pairText.toList,
      StandsAlone "---".toList line := by
    have hlines : ∀ line ∈ lines pairText.toList,
        contains "---".toList line = true → trim line = "---".toList := by
      decide +kernel
    exact fun line hline hoccurs =>
      hlines line hline ((contains_iff_isInfix (by decide)).mpr hoccurs)
  have hlength : (Automaton.readAll pairText).toOption.map List.length =
      some 2 := by decide +kernel
  obtain ⟨automata, hsome, htwo⟩ := Option.map_eq_some_iff.mp hlength
  have hread := eq_ok_of_toOption hsome
  obtain ⟨first, second, rfl⟩ := List.length_eq_two.mp htwo
  obtain ⟨hnone, hgrammars, hentries, -⟩ :=
    load_automata hheadless halone hread (List.cons_ne_nil _ _) "pair"
  refine ⟨?_, hgrammars, hnone⟩
  rw [Registry.names, hentries]
  rfl

end RightLinear.Collection
