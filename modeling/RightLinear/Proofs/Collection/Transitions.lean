import RightLinear.Proofs.Automaton.Document
import RightLinear.Proofs.Collection.Detect
import RightLinear.Proofs.Text.Replace

/-! Transitions with arrows, as the guess counts them and as automata are read.
The guess cuts a line at arrows of both spellings, a transition is cut at `->`
only.  So the two agree on a line exactly if the arrow symbol does not stand in
it: an arrow symbol that is not an arrow stays in one of the labels. -/

namespace RightLinear.Collection

open Text Automaton Automaton.Document
open Automaton.Format (Describes readLine_of_not_keyword readLines_of_describes)

section Pieces

variable {separates : Char → Bool} {mark text : List Char} {character : Char}

theorem exists_mem_splitOn (hmark : character ∉ mark) (h : character ∈ text) :
    ∃ piece ∈ splitOn mark text, character ∈ piece := by
  rw [← intercalate_splitOn mark text] at h
  exact (mem_of_mem_intercalate h).resolve_left hmark

theorem exists_mem_splitWhere (hcharacter : separates character = false)
    (h : character ∈ text) :
    ∃ piece ∈ splitWhere separates text, character ∈ piece := by
  induction text with
  | nil => contradiction
  | cons first rest ih =>
      rw [splitWhere]
      by_cases hfirst : separates first = true
      · rw [if_pos hfirst]
        have hlater : character ∈ rest := by
          refine (List.mem_cons.mp h).resolve_left fun heq => ?_
          rw [heq, hfirst] at hcharacter
          contradiction
        obtain ⟨piece, hpiece, hin⟩ := ih hlater
        exact ⟨piece, List.mem_cons_of_mem _ hpiece, hin⟩
      · obtain ⟨piece, pieces, hrest⟩ :=
          List.exists_cons_of_ne_nil (splitWhere_ne_nil separates rest)
        rw [hrest] at ih
        rw [if_neg hfirst, hrest]
        cases List.mem_cons.mp h with
        | inl heq => exact ⟨first :: piece, List.mem_cons_self, by simp [heq]⟩
        | inr hlater =>
            obtain ⟨found, hfound, hin⟩ := ih hlater
            cases List.mem_cons.mp hfound with
            | inl heq =>
                exact ⟨first :: piece, List.mem_cons_self,
                  List.mem_cons_of_mem _ (heq ▸ hin)⟩
            | inr hother =>
                exact ⟨found, List.mem_cons_of_mem _ hother, hin⟩

theorem exists_mem_words (hvisible : isBlank character = false)
    (h : character ∈ text) : ∃ word ∈ words text, character ∈ word := by
  obtain ⟨piece, hpiece, hin⟩ := exists_mem_splitWhere hvisible h
  refine ⟨piece, List.mem_filter.mpr ⟨hpiece, ?_⟩, hin⟩
  simpa using List.ne_nil_of_mem hin

end Pieces

section Lines

variable {line : List Char} {source symbol target : List Char}

/-- The transition between the parts of a line. -/
def edgeOf (source symbol target : List Char) : Transition :=
  ⟨String.ofList source, String.ofList symbol, String.ofList target⟩

/-- Besides the arrows nothing that can be seen is left out of a transition. -/
theorem mem_parts_of_readTransition
    (h : readTransition line = .ok (.transition (edgeOf source symbol target)))
    {character : Char} (hvisible : isBlank character = false)
    (harrow : character ∉ "->".toList) (hcharacter : character ∈ line) :
    character ∈ source ++ symbol ++ target := by
  have hpart : ∃ part ∈ (if contains "->".toList line then
      (splitOn "->".toList line).map trim else words line),
        character ∈ part := by
    split
    · obtain ⟨piece, hpiece, hin⟩ := exists_mem_splitOn harrow hcharacter
      exact ⟨trim piece, List.mem_map_of_mem hpiece,
        (mem_trim_iff hvisible).mpr hin⟩
    · exact exists_mem_words hvisible hcharacter
  obtain ⟨part, hpart, hin⟩ := hpart
  simp only [readTransition] at h
  split at h
  · next first second third hparts =>
      rw [hparts] at hpart
      split at h
      · contradiction
      · obtain ⟨hsource, hsymbol, htarget⟩ :=
          Transition.mk.inj (Line.transition.inj (Except.ok.inj h))
        obtain rfl := String.ofList_injective hsource
        obtain rfl := String.ofList_injective hsymbol
        obtain rfl := String.ofList_injective htarget
        simp only [List.mem_cons, List.not_mem_nil, or_false] at hpart
        rcases hpart with rfl | rfl | rfl
        · simp [hin]
        · simp [hin]
        · simp [hin]
  · contradiction

/-- Every arrow symbol is an arrow to the guess. -/
theorem not_mem_arrowParts {part : List Char} (h : part ∈ arrowParts line) :
    '→' ∉ part := by
  obtain ⟨piece, hpiece, rfl⟩ := List.mem_map.mp h
  rw [mem_trim_iff rfl]
  intro hin
  exact not_mem_replace (by decide) line
    ((infix_of_mem_splitOn hpiece).subset hin)

theorem arrowParts_eq (h : '→' ∉ line) :
    arrowParts line = (splitOn "->".toList line).map trim := by
  have hsymbol : "→".toList = ['→'] := rfl
  rw [arrowParts, hsymbol, replace_of_not_mem h]

variable (hparts : arrowParts line = [source, symbol, target])
include hparts

/-- Without arrow symbols the line is read as it was counted. -/
theorem readTransition_of_arrowParts (hsource : source ≠ [])
    (hsymbol : symbol ≠ []) (htarget : target ≠ []) (harrow : '→' ∉ line) :
    readTransition line = .ok (.transition (edgeOf source symbol target)) := by
  rw [arrowParts_eq harrow] at hparts
  have hcontains : contains "->".toList line = true := by
    rw [contains, Option.isSome_iff_ne_none]
    intro hnone
    rw [splitOn_of_cut?_none hnone] at hparts
    simp at hparts
  simp only [readTransition, hcontains, if_true, hparts]
  rw [if_neg]
  · rfl
  · simp [hsource, hsymbol, htarget]

theorem readTransition_eq_iff (hsource : source ≠ []) (hsymbol : symbol ≠ [])
    (htarget : target ≠ []) :
    readTransition line = .ok (.transition (edgeOf source symbol target)) ↔
      '→' ∉ line := by
  constructor
  · intro hread harrow
    have hin := mem_parts_of_readTransition hread rfl (by decide) harrow
    have hnone : ∀ part ∈ [source, symbol, target], '→' ∉ part :=
      fun part hpart => not_mem_arrowParts (hparts ▸ hpart)
    rw [List.mem_append, List.mem_append] at hin
    rcases hin with (hin | hin) | hin
    · exact hnone source (by simp) hin
    · exact hnone symbol (by simp) hin
    · exact hnone target (by simp) hin
  · exact readTransition_of_arrowParts hparts hsource hsymbol htarget

end Lines

section Texts

variable {line : List Char} {edge : Transition}

/-- The automaton that is meant by a start line and one transition. -/
def arrowAutomaton (edge : Transition) (hlength : edge.symbol.length = 1) :
    Automaton where
  states := .ofList ["p", edge.source, edge.target]
  alphabet := .singleton edge.symbol
  transitions := .singleton edge
  start := "p"
  accepting := ∅
  length_symbol := by
    intro symbol hsymbol
    rwa [SortedSet.mem_singleton.mp hsymbol]
  start_mem := SortedSet.mem_ofList.mpr List.mem_cons_self
  accepting_mem := fun state hstate => absurd hstate (SortedSet.not_mem_empty state)
  source_mem := by
    intro transition htransition
    rw [SortedSet.mem_singleton.mp htransition]
    exact SortedSet.mem_ofList.mpr (by simp)
  target_mem := by
    intro transition htransition
    rw [SortedSet.mem_singleton.mp htransition]
    exact SortedSet.mem_ofList.mpr (by simp)
  symbol_mem := by
    intro transition htransition
    rw [SortedSet.mem_singleton.mp htransition]
    exact SortedSet.mem_singleton.mpr rfl

theorem arrowAutomaton_describes (hlength : edge.symbol.length = 1) :
    Describes [.start "p", .transition edge] (arrowAutomaton edge hlength) where
  holds := by
    refine List.forall_mem_cons.mpr ⟨rfl, List.forall_mem_singleton.mpr ?_⟩
    exact SortedSet.mem_singleton.mpr rfl
  start := List.mem_cons_self
  accepting := fun state hstate => absurd hstate (SortedSet.not_mem_empty state)
  transition := by
    intro transition htransition
    rw [SortedSet.mem_singleton.mp htransition]
    exact List.mem_cons_of_mem _ List.mem_cons_self
  state := by
    intro state hstate
    cases List.mem_cons.mp (SortedSet.mem_ofList.mp hstate) with
    | inl hstart => exact .inr (.inl hstart)
    | inr hends =>
        exact .inr (.inr (.inr ⟨edge, SortedSet.mem_singleton.mpr rfl, hends⟩))
  symbol := by
    intro symbol hsymbol
    exact .inr ⟨edge, SortedSet.mem_singleton.mpr rfl,
      SortedSet.mem_singleton.mp hsymbol⟩

/-- A line below a start line makes one block with it. -/
theorem readAll_below_start (hnewline : '\n' ∉ line)
    (hseparator : ¬ "---".toList <:+: line) (hvisible : trim line ≠ []) :
    readAll ("start: p\n" ++ String.ofList line) =
      [["start: p".toList, trim line]].mapM readLines := by
  have htext : ("start: p\n" ++ String.ofList line).toList =
      "start: p".toList ++ '\n' :: line := by
    rw [String.toList_append, String.toList_ofList (l := line)]
    rfl
  have hwhole : ¬ "---".toList <:+: "start: p".toList ++ '\n' :: line := by
    intro hoccurs
    have hlead : Avoids "---".toList "start: p\n".toList := by
      simp [Avoids]
    exact hseparator (@infix_of_avoids_append "start: p\n".toList line
      "---".toList (by decide) hlead hoccurs)
  have hline : visibleLines line = [trim line] := by
    rw [visibleLines, lines_of_not_mem hnewline, visible_cons hvisible]
    rfl
  have hstart : visibleLines "start: p".toList = ["start: p".toList] := by
    decide +kernel
  rw [readAll_eq, htext, splitOn_of_passes (passes_nil hwhole),
    List.map_singleton, visibleLines_append_cons, hstart, hline]
  rfl

theorem readLine_start : readLine "start: p".toList = .ok (.start "p") :=
  eq_ok_of_toOption (by decide +kernel)

theorem readLines_below_start
    (h : readLine line = .ok (.transition edge))
    (hlength : edge.symbol.length = 1) :
    readLines ["start: p".toList, line] =
      .ok (arrowAutomaton edge hlength) := by
  refine readLines_of_describes ?_ (arrowAutomaton_describes hlength)
  rw [List.mapM_cons, readLine_start, List.mapM_cons, h]
  rfl

/-- A transition that is read below a start line stands in the line. -/
theorem readLine_of_mem_transitions {automaton : Automaton}
    (h : readLines ["start: p".toList, line] = .ok automaton)
    (hedge : edge ∈ automaton.transitions) :
    readLine line = .ok (.transition edge) := by
  obtain ⟨found, hread, hformed, rfl⟩ := exists_of_readLines h
  have hmem := Automaton.Format.mem_transitions_description.mp
    (mem_transitions_ofWellFormed.mp hedge)
  obtain ⟨source, hsource, hline⟩ := exists_mem_of_mapM hread _ hmem
  simp only [List.mem_cons, List.not_mem_nil, or_false] at hsource
  rcases hsource with rfl | rfl
  · rw [readLine_start] at hline
    cases hline
  · exact hline

end Texts

/-- The guess counts a line as a transition when its arrows cut it in three.  Below
a start line such a line is read as this transition, and nothing else, if the arrow
symbol does not stand in it; otherwise this transition is never read from it. -/
theorem counted_transition_read_iff {line source symbol target : List Char}
    (hnewline : '\n' ∉ line) (hcomment : (trim line).head? ≠ some '#')
    (hkeyword : ¬ BeginsWithKeyword (trim line))
    (hseparator : ¬ "---".toList <:+: line)
    (hparts : arrowParts (trim line) = [source, symbol, target])
    (hsource : source ≠ []) (hsymbol : symbol.length = 1) (htarget : target ≠ []) :
    ('→' ∉ line → ∃ automaton,
      readAll ("start: p\n" ++ String.ofList line) = .ok [automaton] ∧
        automaton.transitions = .singleton (edgeOf source symbol target) ∧
          automaton.start = "p" ∧ automaton.accepting = ∅ ∧
            automaton.alphabet = .singleton (String.ofList symbol) ∧
              automaton.states =
                .ofList ["p", String.ofList source, String.ofList target]) ∧
    ('→' ∈ line → ∀ automata,
      readAll ("start: p\n" ++ String.ofList line) = .ok automata →
        ∀ automaton ∈ automata,
          edgeOf source symbol target ∉ automaton.transitions) := by
  have hvisible : trim line ≠ [] := by
    intro hempty
    have hnone : arrowParts [] = [[]] := by decide +kernel
    rw [hempty, hnone] at hparts
    simp at hparts
  have hsymbolNe : symbol ≠ [] := List.ne_nil_of_length_pos (by omega)
  have hkeywords : ∀ keyword ∈ Automaton.Format.keywords,
      ¬ keyword <+: trim line := by
    intro keyword hmem hbegins
    have hall : Automaton.Format.keywords ⊆ automatonKeywords := by decide
    exact hkeyword ⟨keyword, hall hmem, hbegins⟩
  have hline : readLine (trim line) = readTransition (trim line) := by
    refine readLine_of_not_keyword (isTrimmed_trim line) hvisible ?_ hkeywords
    intro hbegins
    obtain ⟨rest, hrest⟩ := hbegins
    exact hcomment (congrArg List.head? hrest.symm)
  have hread := readTransition_eq_iff hparts hsource hsymbolNe htarget
  rw [← hline, mem_trim_iff rfl] at hread
  rw [readAll_below_start hnewline hseparator hvisible]
  constructor
  · intro harrow
    have hlength : (edgeOf source symbol target).symbol.length = 1 := by
      rw [edgeOf, String.length_ofList, hsymbol]
    have hlines := readLines_below_start (hread.mpr harrow) hlength
    refine ⟨arrowAutomaton _ hlength, ?_, rfl, rfl, rfl, rfl, rfl⟩
    rw [List.mapM_cons, hlines]
    rfl
  · intro harrow automata hautomata automaton hmem hedge
    obtain ⟨lines, hlines, hone⟩ := exists_mem_of_mapM hautomata automaton hmem
    rw [List.mem_singleton.mp hlines] at hone
    exact hread.mp (readLine_of_mem_transitions hone hedge) harrow

theorem commaLine_read :
    arrowParts (trim " p q->, -> r".toList) = ["p q".toList, [','], ['r']] ∧
      ∃ automaton, readAll "start: p\n p q->, -> r" = .ok [automaton] ∧
        automaton.transitions = .singleton ⟨"p q", ",", "r"⟩ := by
  have hparts : arrowParts (trim " p q->, -> r".toList) =
      ["p q".toList, [','], ['r']] := by decide +kernel
  have hkeyword : ¬ BeginsWithKeyword (trim " p q->, -> r".toList) := by
    decide +kernel
  have hseparator : ¬ "---".toList <:+: " p q->, -> r".toList := by
    decide +kernel
  obtain ⟨hread, -⟩ := counted_transition_read_iff (by decide +kernel)
    (by decide +kernel) hkeyword hseparator hparts (by decide) rfl (by decide)
  obtain ⟨automaton, hautomaton, htransitions, -⟩ := hread (by decide +kernel)
  exact ⟨hparts, automaton, hautomaton, htransitions⟩

/-- The guess takes the line for a transition, and no transition is read from
it. -/
theorem symbolArrows_refused :
    arrowParts (trim "p → a → q".toList) = [['p'], ['a'], ['q']] ∧
      looksLikeAutomaton "p → a → q".toList = true ∧
        ¬ "---".toList <:+: "p → a → q".toList ∧
          readAll "start: p\np → a → q" =
            .error (.malformedTransition "p → a → q") := by
  refine ⟨by decide +kernel, by decide +kernel, by decide +kernel, ?_⟩
  decide +kernel

end RightLinear.Collection
