import RightLinear.Automaton.Document
import RightLinear.Proofs.Text.Marks
import RightLinear.Proofs.Traversal

/-! Blocks as their visible lines.  A block is read from the lines that are
left when blanks are taken away, so neither the blanks around a block nor the
empty lines in it matter, and a text whose separators stand on lines of their
own is read group by group. -/

namespace RightLinear.Automaton

open Text

namespace Document

def readLines (lines : List (List Char)) : Except DocumentError Automaton := do
  let lines ← lines.mapM readLine
  if (description lines).start.isNone then throw .missingStart
  (ofDescription (description lines)).mapError .fault

theorem readBlock_eq (block : List Char) :
    readBlock block = readLines (lines block) := rfl

theorem readLine_trim (line : List Char) : readLine (trim line) = readLine line := by
  rw [readLine, readLine, trim_trim]

/-- Lines that say nothing add nothing. -/
theorem description_filter (lines : List Line) :
    description (lines.filter (· != .blank)) = description lines := by
  have hstart : Line.start? .blank = none := rfl
  have htransition : Line.transition? .blank = none := rfl
  have hstates : Line.declaredStates .blank = [] := rfl
  have hsymbols : Line.declaredSymbols .blank = [] := rfl
  have haccepting : Line.accepting .blank = [] := rfl
  simp only [description, filterMap_filter_ne hstart,
    filterMap_filter_ne htransition, flatMap_filter_ne hstates,
    flatMap_filter_ne hsymbols, flatMap_filter_ne haccepting]

theorem readLines_visible (lines : List (List Char)) :
    readLines (visible lines) = readLines lines :=
  mapM_visible readLine rfl readLine_trim
    (fun found => by simp only [description_filter]) lines

theorem readBlock_trim (piece : List Char) :
    readBlock (trim piece) = readLines (visibleLines piece) := by
  rw [readBlock_eq, ← readLines_visible, ← visibleLines, visibleLines_trim]

/-- What a line is read as. -/
theorem readLine_cases {text : List Char} {line : Line}
    (h : readLine text = .ok line) :
    line = .blank ∨
    (∃ rest, after? "alphabet:".toList (trim text) = some rest ∧
      line = .alphabet (labels rest)) ∨
    (∃ rest, after? "states:".toList (trim text) = some rest ∧
      line = .states (labels rest)) ∨
    (∃ rest, after? "start:".toList (trim text) = some rest ∧
      line = .start (String.ofList (trim rest))) ∨
    (∃ rest, after? "accept:".toList (trim text) = some rest ∧
      line = .accept (labels rest)) ∨
    readTransition (trim text) = .ok line := by
  simp only [readLine] at h
  split at h
  · exact .inl (Except.ok.inj h).symm
  · split at h
    · next rest halphabet =>
        exact .inr (.inl ⟨rest, halphabet, (Except.ok.inj h).symm⟩)
    · split at h
      · next rest hstates =>
          exact .inr (.inr (.inl ⟨rest, hstates, (Except.ok.inj h).symm⟩))
      · split at h
        · next rest hstart =>
            exact .inr (.inr (.inr (.inl
              ⟨rest, hstart, (Except.ok.inj h).symm⟩)))
        · split at h
          · next rest haccept =>
              exact .inr (.inr (.inr (.inr (.inl
                ⟨rest, haccept, (Except.ok.inj h).symm⟩))))
          · exact .inr (.inr (.inr (.inr (.inr h))))

/-- What is read is the automaton that the lines describe. -/
theorem exists_of_readLines {lines : List (List Char)} {automaton : Automaton}
    (h : readLines lines = .ok automaton) :
    ∃ found, lines.mapM readLine = .ok found ∧
      ∃ hformed : (description found).WellFormed,
        ofWellFormed (description found) hformed = automaton := by
  rw [readLines] at h
  cases hlines : lines.mapM readLine with
  | error failure =>
      rw [hlines] at h
      contradiction
  | ok found =>
      rw [hlines] at h
      simp only [bind, Except.bind] at h
      split at h
      · contradiction
      · cases hformed : ofDescription (description found) with
        | error fault =>
            rw [hformed] at h
            contradiction
        | ok built =>
            rw [hformed] at h
            obtain rfl : built = automaton := Except.ok.inj h
            exact ⟨found, rfl, exists_ofWellFormed hformed⟩

section Start

variable {line : List Char} {label : String}

theorem readTransition_ne_start (line : List Char) (label : String) :
    readTransition line ≠ .ok (.start label) := by
  intro h
  simp only [readTransition] at h
  split at h
  · split at h
    · contradiction
    · cases h
  · contradiction

/-- Only a line with its keyword gives the start. -/
theorem after?_of_readLine_start (h : readLine line = .ok (.start label)) :
    ∃ rest, after? "start:".toList (trim line) = some rest ∧
      String.ofList (trim rest) = label := by
  rcases readLine_cases h with hblank | ⟨_, -, hother⟩ | ⟨_, -, hother⟩ |
    ⟨rest, hstart, hlabel⟩ | ⟨_, -, hother⟩ | htransition
  · contradiction
  · contradiction
  · contradiction
  · exact ⟨rest, hstart, (Line.start.inj hlabel).symm⟩
  · contradiction
  · exact absurd htransition (readTransition_ne_start _ _)

theorem prefix_of_readLine_start (h : readLine line = .ok (.start label)) :
    "start:".toList <+: trim line ∧ (trim line).head? ≠ some '#' := by
  obtain ⟨rest, hstart, -⟩ := after?_of_readLine_start h
  obtain ⟨tail, htail⟩ := prefix_of_after? hstart
  refine ⟨⟨tail, htail⟩, ?_⟩
  rw [← htail]
  exact nofun

theorem Line.eq_start_of_start? {line : Line}
    (h : line.start? = some label) : line = .start label := by
  cases line with
  | start other => exact congrArg Line.start (Option.some.inj h)
  | _ => contradiction

/-- A block that is read has a line that gives the start. -/
theorem exists_start_of_readLines {lines : List (List Char)}
    {automaton : Automaton} (h : readLines lines = .ok automaton) :
    ∃ line ∈ lines, ∃ label, readLine line = .ok (.start label) := by
  obtain ⟨found, hread, hformed, -⟩ := exists_of_readLines h
  obtain ⟨label, -, hstart⟩ := hformed.start_mem
  obtain ⟨result, hresult, hlabel⟩ :=
    List.mem_filterMap.mp (List.mem_of_getLast? hstart)
  obtain ⟨line, hline, hstep⟩ := exists_mem_of_mapM hread result hresult
  rw [Line.eq_start_of_start? hlabel] at hstep
  exact ⟨line, hline, label, hstep⟩

end Start

end Document

open Document

theorem readAll_eq (text : String) :
    readAll text = (((splitOn "---".toList text.toList).map visibleLines).filter
      (!·.isEmpty)).mapM readLines := by
  have hempty : ((!·.isEmpty) : List Char → Bool) ∘ trim =
      (!·.isEmpty) ∘ visibleLines := by
    funext piece
    have hiff := visibleLines_eq_nil_iff piece
    cases htrim : trim piece with
    | nil => simp [htrim, hiff.mpr htrim]
    | cons first rest =>
        have hne : visibleLines piece ≠ [] := by simp [hiff, htrim]
        simp [htrim, List.isEmpty_eq_false_iff.mpr hne]
  have hread : readBlock ∘ trim = readLines ∘ visibleLines :=
    funext readBlock_trim
  rw [readAll, blocks, List.filter_map, List.filter_map, List.mapM_map,
    List.mapM_map, hempty]
  exact congrArg (List.mapM · _) hread

/-- Blanks around a text do not change what is read. -/
theorem readAll_trim (text : List Char) :
    readAll (String.ofList (trim text)) = readAll (String.ofList text) := by
  rw [readAll_eq, readAll_eq, String.toList_ofList (l := trim text),
    String.toList_ofList (l := text),
    map_visibleLines_splitOn_trim (by decide) (visible_of_all rfl)]

/-- With separators on lines of their own, each group of lines is read for
itself. -/
theorem readAll_lines {lines : List (List Char)}
    (hlines : ∀ line ∈ lines, '\n' ∉ line)
    (halone : ∀ line ∈ lines, StandsAlone "---".toList line) :
    readAll (String.ofList (['\n'].intercalate lines)) =
      (((lines.splitOnP (trim · == "---".toList)).map visible).filter
        (!·.isEmpty)).mapM readLines := by
  rw [readAll_eq,
    String.toList_ofList (l := ['\n'].intercalate lines),
    map_visibleLines_splitOn (by decide) (visible_of_all rfl) hlines
      halone]

end RightLinear.Automaton
