import RightLinear.Proofs.Collection.Merge
import RightLinear.Proofs.Text.Lines

/-! Texts of several sections.  Headers stand on lines of their own, so the
sections that were put together are found again, and each gives what it gives
as a text of its own. -/

namespace RightLinear.Collection

open Text

section Headers

/-- A name that is no keyword, a colon and blanks. -/
structure IsHeader (name : String) (line : List Char) : Prop where
  isSectionName : isSectionName name.toList = true
  not_reserved : name ∉ reservedNames
  exists_gap : ∃ gap, (∀ character ∈ gap, isBlank character = true) ∧
    line = name.toList ++ ':' :: gap

/-- No line of the text is a header. -/
def IsHeadless (text : List Char) : Prop :=
  ∀ line ∈ lines text, ∀ name, ¬ IsHeader name line

theorem isWordCharacter_of_isAlpha {character : Char}
    (h : character.isAlpha = true) : isWordCharacter character = true := by
  have hletter : ∀ range ∈ [(0x41, 0x5A), (0x61, 0x7A)],
      range.1 ≤ character.toNat → character.toNat ≤ range.2 →
        isAlphanumeric character = true := by
    intro range hrange hlow hhigh
    have hmem : range ∈ alphanumericRanges :=
      List.mem_cons_of_mem _ (List.mem_append_left (alphanumericRanges.drop 3)
        hrange)
    exact List.any_eq_true.mpr ⟨range, hmem, by simp [hlow, hhigh]⟩
  rw [isWordCharacter, Bool.or_eq_true]
  right
  have hcases : (0x41 ≤ character.toNat ∧ character.toNat ≤ 0x5A) ∨
      0x61 ≤ character.toNat ∧ character.toNat ≤ 0x7A := by
    rcases (Bool.or_eq_true _ _).mp h with hupper | hlower
    · exact .inl (of_decide_eq_true hupper)
    · right
      have hrange : (decide (0x61 ≤ character.toNat) &&
          decide (character.toNat ≤ 0x7A)) = true := hlower
      simpa using hrange
  rcases hcases with ⟨hlow, hhigh⟩ | ⟨hlow, hhigh⟩
  · exact hletter (0x41, 0x5A) List.mem_cons_self hlow hhigh
  · exact hletter (0x61, 0x7A) (List.mem_cons_of_mem _ List.mem_cons_self)
      hlow hhigh

theorem isWordCharacter_of_isSectionName {name : List Char}
    (h : isSectionName name = true) :
    ∀ character ∈ name, isWordCharacter character = true := by
  cases name with
  | nil => exact List.forall_mem_nil _
  | cons first rest =>
      simp only [isSectionName, Bool.and_eq_true, List.all_eq_true] at h
      exact List.forall_mem_cons.mpr
        ⟨isWordCharacter_of_isAlpha h.1, h.2⟩

theorem headerName?_append {name : List Char}
    (hname : ∀ character ∈ name, isWordCharacter character = true)
    (gap : List Char) :
    headerName? (name ++ ':' :: gap) =
      if isSectionName name && gap.all isBlank &&
          !reservedNames.contains (String.ofList name) then
        some (String.ofList name)
      else none := by
  have hcolon : isWordCharacter ':' = false := by decide +kernel
  rw [headerName?, List.takeWhile_append_of_pos hname,
    List.dropWhile_append_of_pos hname, List.takeWhile_cons, hcolon,
    List.dropWhile_cons, hcolon]
  simp

theorem headerName?_eq_some_iff {line : List Char} {name : String} :
    headerName? line = some name ↔ IsHeader name line := by
  constructor
  · intro h
    have hline := List.takeWhile_append_dropWhile (p := isWordCharacter)
      (l := line)
    rw [headerName?] at h
    split at h
    · next gap hgap =>
        split at h
        · next hheader =>
            obtain rfl := Option.some.inj h
            simp only [Bool.and_eq_true, List.all_eq_true,
              Bool.not_eq_true', List.contains_eq_mem,
              decide_eq_false_iff_not] at hheader
            refine ⟨?_, hheader.2, gap, hheader.1.2, ?_⟩
            · rw [String.toList_ofList]
              exact hheader.1.1
            · rw [String.toList_ofList, ← hgap, hline]
        · contradiction
    · contradiction
  · rintro ⟨hname, hreserved, gap, hgap, rfl⟩
    rw [headerName?_append (isWordCharacter_of_isSectionName hname),
      String.ofList_toList, if_pos]
    simpa [hname, hreserved] using hgap

theorem headerName?_eq_none_iff {line : List Char} :
    headerName? line = none ↔ ∀ name, ¬ IsHeader name line := by
  simp only [Option.eq_none_iff_forall_ne_some, ne_eq, headerName?_eq_some_iff]

theorem isHeadless_iff {text : List Char} :
    IsHeadless text ↔ ∀ line ∈ lines text, headerName? line = none :=
  forall₂_congr fun _ _ => headerName?_eq_none_iff.symm

/-- A keyword with nothing after its colon does not begin a section. -/
theorem not_isHeader_of_reserved {reserved : String}
    (hreserved : reserved ∈ reservedNames) (gap : List Char) (name : String) :
    ¬ IsHeader name (reserved.toList ++ ':' :: gap) := by
  have hword : ∀ reserved ∈ reservedNames,
      reserved.toList.all isWordCharacter = true := by decide +kernel
  have hnone : headerName? (reserved.toList ++ ':' :: gap) = none := by
    rw [headerName?_append (List.all_eq_true.mp (hword reserved hreserved)),
      String.ofList_toList,
      if_neg (by simp [hreserved])]
  exact headerName?_eq_none_iff.mp hnone name

end Headers

section Writing

namespace Section

/-- The header on a line of its own, then the body. -/
def written (definition : Section) : List Char :=
  definition.name.toList ++ ':' :: '\n' :: definition.body

structure WellFormed (definition : Section) : Prop where
  name : isSectionName definition.name.toList = true
  not_reserved : definition.name ∉ reservedNames
  body : IsHeadless definition.body

/-- The section as it is read, without the blanks around its body. -/
def trimmed (definition : Section) : Section :=
  ⟨definition.name, trim definition.body⟩

end Section

def textOf (definitions : List Section) : String :=
  String.ofList (['\n'].intercalate (definitions.map Section.written))

variable {definition : Section} {definitions : List Section}

theorem not_mem_newline_of_isSectionName {name : List Char}
    (h : isSectionName name = true) : '\n' ∉ name := by
  intro hin
  have hword := isWordCharacter_of_isSectionName h '\n' hin
  have hnewline : isWordCharacter '\n' = false := by decide +kernel
  rw [hnewline] at hword
  contradiction

theorem Section.WellFormed.lines_written (h : definition.WellFormed) :
    lines definition.written =
      (definition.name.toList ++ [':']) :: lines definition.body := by
  have hline : '\n' ∉ definition.name.toList ++ [':'] := by
    simpa using not_mem_newline_of_isSectionName h.name
  have hwritten : definition.written =
      (definition.name.toList ++ [':']) ++ '\n' :: definition.body := by
    rw [written, List.append_assoc]
    rfl
  rw [hwritten, lines_append_cons, lines_of_not_mem hline]
  rfl

theorem Section.WellFormed.headerName? (h : definition.WellFormed) :
    headerName? (definition.name.toList ++ [':']) = some definition.name :=
  headerName?_eq_some_iff.mpr
    ⟨h.name, h.not_reserved, [], List.forall_mem_nil _, rfl⟩

theorem divide_append {body : List (List Char)}
    (hbody : ∀ line ∈ body, headerName? line = none)
    (rest : List (List Char)) :
    divide (body ++ rest) = (body ++ (divide rest).1, (divide rest).2) := by
  induction body with
  | nil => rfl
  | cons line body ih =>
      have hparts := List.forall_mem_cons.mp hbody
      rw [List.cons_append, divide, ih hparts.2, hparts.1]
      rfl

theorem IsHeadless.divide {text : List Char} (h : IsHeadless text) :
    divide (lines text) = (lines text, []) := by
  have hall := divide_append (isHeadless_iff.mp h) []
  rwa [List.append_nil, Collection.divide, List.append_nil] at hall

theorem divide_written (h : ∀ definition ∈ definitions,
    definition.WellFormed) :
    divide (definitions.flatMap fun definition => lines definition.written) =
      ([], definitions.map fun definition =>
        (definition.name, lines definition.body)) := by
  induction definitions with
  | nil => rfl
  | cons definition definitions ih =>
      have hparts := List.forall_mem_cons.mp h
      rw [List.flatMap_cons, hparts.1.lines_written, List.cons_append, divide,
        hparts.1.headerName?, divide_append (isHeadless_iff.mp hparts.1.body),
        ih hparts.2, List.append_nil]
      rfl

theorem sections_textOf (h : ∀ definition ∈ definitions,
    definition.WellFormed) :
    sections (textOf definitions).toList =
      definitions.map Section.trimmed := by
  rw [sections, textOf, String.toList_ofList]
  cases definitions with
  | nil => rfl
  | cons definition definitions =>
      rw [lines_intercalate_texts (by simp), List.flatMap_map,
        divide_written h, List.map_map]
      apply List.map_congr_left
      intro definition _
      simp only [Function.comp_apply, joinLines, intercalate_lines,
        Section.trimmed]

theorem definitions_textOf (h : ∀ definition ∈ definitions,
    definition.WellFormed) (name : String) :
    Collection.definitions (textOf definitions).toList name =
      (definitions.map Section.trimmed).filter (!·.body.isEmpty) := by
  rw [Collection.definitions, sections_textOf h]
  cases definitions with
  | nil => rfl
  | cons definition definitions => rfl

theorem load_textOf (h : ∀ definition ∈ definitions, definition.WellFormed)
    (name : String) :
    load (textOf definitions) name =
      ((definitions.map Section.trimmed).filter (!·.body.isEmpty)).foldl
        addDefinition ⟨∅, []⟩ := by
  rw [load, definitions_textOf h]

end Writing

section Loading

variable {definition : Section} {definitions : List Section}

/-- What a section gives on its own. -/
def alone (definition : Section) : Loaded :=
  if (trim definition.body).isEmpty then ⟨∅, []⟩
  else addDefinition ⟨∅, []⟩ definition.trimmed

theorem alone_of_visible (hvisible : trim definition.body ≠ []) :
    alone definition = addDefinition ⟨∅, []⟩ definition.trimmed :=
  if_neg (by simpa using hvisible)

/-- A text without headers is one definition. -/
theorem load_headless {text : String} (hheadless : IsHeadless text.toList)
    (hvisible : trim text.toList ≠ []) (name : String) :
    load text name = addDefinition ⟨∅, []⟩ ⟨name, trim text.toList⟩ := by
  have hsections : sections text.toList = [] := by
    rw [sections, hheadless.divide]
    rfl
  have hdefinitions : definitions text.toList name =
      [⟨name, trim text.toList⟩] := by
    rw [definitions, hsections]
    exact List.filter_cons_of_pos (by simpa using hvisible)
  rw [load, hdefinitions]
  rfl

theorem load_single (h : definition.WellFormed) (name : String) :
    load (textOf [definition]) name = alone definition := by
  rw [load_textOf (List.forall_mem_singleton.mpr h), alone, List.map_singleton]
  split
  · next hempty =>
      rw [List.filter_cons_of_neg (by simpa [Section.trimmed] using hempty)]
      rfl
  · next hvisible =>
      rw [List.filter_cons_of_pos (by simpa [Section.trimmed] using hvisible)]
      rfl

theorem foldl_addDefinition (definitions : List Section) (loaded : Loaded) :
    ((definitions.map Section.trimmed).filter (!·.body.isEmpty)).foldl
        addDefinition loaded =
      (definitions.map alone).foldl Loaded.merge loaded := by
  induction definitions generalizing loaded with
  | nil => rfl
  | cons definition definitions ih =>
      rw [List.map_cons, List.map_cons, List.foldl_cons, alone]
      split
      · next hempty =>
          rw [List.filter_cons_of_neg (by simpa [Section.trimmed] using hempty),
            ih, Loaded.merge_empty]
      · next hvisible =>
          rw [List.filter_cons_of_pos
            (by simpa [Section.trimmed] using hvisible), List.foldl_cons, ih,
            Loaded.addDefinition_eq_merge]

/-- Sections are loaded one after the other, as if each were alone. -/
theorem load_eq_foldl_alone (h : ∀ definition ∈ definitions,
    definition.WellFormed) (name : String) :
    load (textOf definitions) name =
      (definitions.map alone).foldl Loaded.merge ⟨∅, []⟩ := by
  rw [load_textOf h, foldl_addDefinition]

end Loading

section Failing

/-- The section cannot be read, neither as one automaton after the other nor
as a grammar, whichever its lines look like. -/
inductive Fails (definition : Section) : Refusal → Prop
  | automaton {error : Automaton.DocumentError}
      (hvisible : trim definition.body ≠ [])
      (hkind : looksLikeAutomaton (trim definition.body) = true)
      (hread : Automaton.readAll (String.ofList (trim definition.body)) =
        .error error) : Fails definition (.automaton definition.name error)
  | grammar {error : Grammar.DocumentError}
      (hvisible : trim definition.body ≠ [])
      (hkind : looksLikeAutomaton (trim definition.body) = false)
      (hread : Grammar.read (String.ofList (trim definition.body)) =
        .error error) : Fails definition (.grammar definition.name error)

variable {definition : Section} {refusal : Refusal}

theorem Fails.alone_eq (h : Fails definition refusal) :
    alone definition = ⟨∅, [refusal]⟩ := by
  cases h with
  | automaton hvisible hkind hread =>
      rw [alone_of_visible hvisible, addDefinition]
      simp only [Section.trimmed, hkind, hread]
      rfl
  | grammar hvisible hkind hread =>
      rw [alone_of_visible hvisible, addDefinition]
      simp only [Section.trimmed, hkind, hread]
      rfl

theorem collection_foldl_merge (results : List Loaded) (loaded : Loaded) :
    (results.foldl Loaded.merge loaded).collection =
      (results.map Loaded.collection).foldl Collection.merge
        loaded.collection := by
  induction results generalizing loaded with
  | nil => rfl
  | cons result results ih => exact ih (loaded.merge result)

theorem refusals_foldl_merge (results : List Loaded) (loaded : Loaded) :
    (results.foldl Loaded.merge loaded).refusals =
      loaded.refusals ++ results.flatMap Loaded.refusals := by
  induction results generalizing loaded with
  | nil => exact (List.append_nil _).symm
  | cons result results ih =>
      rw [List.foldl_cons, ih, List.flatMap_cons, ← List.append_assoc]
      rfl

/-- A section that fails leaves one report at its place and nothing else. -/
theorem foldl_merge_of_fails (h : Fails definition refusal)
    (before after : List Section) :
    ((before ++ definition :: after).map alone).foldl Loaded.merge ⟨∅, []⟩ =
      ⟨(((before ++ after).map alone).foldl Loaded.merge ⟨∅, []⟩).collection,
        ((before.map alone).foldl Loaded.merge ⟨∅, []⟩).refusals ++
          refusal :: ((after.map alone).foldl Loaded.merge ⟨∅, []⟩).refusals⟩ := by
  have hsame : ∀ loaded : Loaded, loaded =
      ⟨loaded.collection, loaded.refusals⟩ := fun _ => rfl
  rw [hsame (List.foldl _ _ _), collection_foldl_merge,
    collection_foldl_merge, refusals_foldl_merge, refusals_foldl_merge,
    refusals_foldl_merge]
  simp only [List.map_append, List.map_cons, List.foldl_append,
    List.foldl_cons, List.flatMap_append, List.flatMap_cons, h.alone_eq,
    merge_empty, List.nil_append, List.singleton_append]

end Failing

section Giving

/-- What a section gives that can be read: nothing if it is blank, and else its
automata in their order, under its name with numbers, or its grammar. -/
inductive Gives (definition : Section) :
    List (String × Automaton) → List (String × Grammar) → Prop
  | nothing (hblank : trim definition.body = []) : Gives definition [] []
  | automata {automata : List Automaton}
      (hvisible : trim definition.body ≠ [])
      (hkind : looksLikeAutomaton (trim definition.body) = true)
      (hread : Automaton.readAll (String.ofList (trim definition.body)) =
        .ok automata) :
      Gives definition (numbered definition.name automata) []
  | grammar {grammar : Grammar} (hvisible : trim definition.body ≠ [])
      (hkind : looksLikeAutomaton (trim definition.body) = false)
      (hread : Grammar.read (String.ofList (trim definition.body)) =
        .ok grammar) :
      Gives definition [] [(definition.name, grammar)]

variable {definition : Section} {automata : List (String × Automaton)}
  {grammars : List (String × Grammar)}

theorem Gives.alone_eq (h : Gives definition automata grammars) :
    alone definition =
      ⟨⟨(∅ : Registry Automaton).insertAll automata,
        (∅ : Registry Grammar).insertAll grammars⟩, []⟩ := by
  cases h with
  | nothing hblank =>
      rw [alone, if_pos (by simpa using hblank)]
      rfl
  | automata hvisible hkind hread =>
      rw [alone_of_visible hvisible, addDefinition]
      simp only [Section.trimmed, hkind, hread, addAutomata_eq]
      rfl
  | grammar hvisible hkind hread =>
      rw [alone_of_visible hvisible, addDefinition]
      simp only [Section.trimmed, hkind, hread]
      rfl

theorem Gives.nodup (h : Gives definition automata grammars) :
    (automata.map Prod.fst).Nodup ∧ (grammars.map Prod.fst).Nodup := by
  cases h with
  | nothing _ => exact ⟨List.nodup_nil, List.nodup_nil⟩
  | automata _ _ _ => exact ⟨nodup_numbered _ _, List.nodup_nil⟩
  | grammar _ _ _ => exact ⟨List.nodup_nil, List.nodup_singleton _⟩

theorem gives_or_fails (definition : Section) :
    (∃ automata grammars, Gives definition automata grammars) ∨
      ∃ refusal, Fails definition refusal := by
  by_cases hblank : trim definition.body = []
  · exact .inl ⟨_, _, .nothing hblank⟩
  cases hkind : looksLikeAutomaton (trim definition.body) with
  | true =>
      cases hread : Automaton.readAll
          (String.ofList (trim definition.body)) with
      | ok automata => exact .inl ⟨_, _, .automata hblank hkind hread⟩
      | error error => exact .inr ⟨_, .automaton hblank hkind hread⟩
  | false =>
      cases hread : Grammar.read (String.ofList (trim definition.body)) with
      | ok grammar => exact .inl ⟨_, _, .grammar hblank hkind hread⟩
      | error error => exact .inr ⟨_, .grammar hblank hkind hread⟩

/-- By induction on the results, for either kind of registry. -/
theorem stored_foldl_merge {α : Type} (stored : Loaded → Registry α)
    (hmerge : ∀ earlier later : Loaded,
      stored (earlier.merge later) = (stored earlier).merge (stored later))
    (results : List Loaded) (loaded : Loaded) :
    stored (results.foldl Loaded.merge loaded) =
      (stored loaded).insertAll
        (results.flatMap fun result => (stored result).entries) := by
  induction results generalizing loaded with
  | nil => rfl
  | cons result results ih =>
      rw [List.foldl_cons, ih, hmerge, List.flatMap_cons,
        Registry.insertAll_append]
      rfl

end Giving

/-- What a text of sections leaves, by what each of them leaves alone. -/
structure LoadsInTurn (definitions : List Section) (name : String) : Prop where
  merged : load (textOf definitions) name =
    (definitions.map fun definition =>
      load (textOf [definition]) name).foldl Loaded.merge ⟨∅, []⟩
  automata : (load (textOf definitions) name).collection.automata.Collects
    (definitions.flatMap fun definition =>
      (load (textOf [definition]) name).collection.automata.entries)
  grammars : (load (textOf definitions) name).collection.grammars.Collects
    (definitions.flatMap fun definition =>
      (load (textOf [definition]) name).collection.grammars.entries)
  refusals : (load (textOf definitions) name).refusals =
    definitions.flatMap fun definition =>
      (load (textOf [definition]) name).refusals
  gives_or_fails : ∀ definition ∈ definitions,
    (∃ automata grammars, Gives definition automata grammars) ∨
      ∃ refusal, Fails definition refusal
  given : ∀ definition ∈ definitions, ∀ automata grammars,
    Gives definition automata grammars →
      (load (textOf [definition]) name).collection.automata.entries =
          automata ∧
        (load (textOf [definition]) name).collection.grammars.entries =
          grammars ∧
        (load (textOf [definition]) name).refusals = []
  failed : ∀ before definition after refusal,
    definitions = before ++ definition :: after →
      Fails definition refusal →
        load (textOf [definition]) name = ⟨∅, [refusal]⟩ ∧
          load (textOf definitions) name =
            ⟨(load (textOf (before ++ after)) name).collection,
              (load (textOf before) name).refusals ++
                refusal :: (load (textOf after) name).refusals⟩
  keywords : ∀ reserved ∈ reservedNames, ∀ gap other,
    ¬ IsHeader other (reserved.toList ++ ':' :: gap)

/-- Sections are loaded independently.  A text of sections gives what they
give one by one, a later entry in the place of an earlier one of its name; a
section that cannot be read leaves one report and nothing else, and keywords do
not end a section. -/
theorem load_sections_independently {definitions : List Section}
    (h : ∀ definition ∈ definitions, definition.WellFormed) (name : String) :
    LoadsInTurn definitions name := by
  have hsingle : ∀ definition ∈ definitions,
      load (textOf [definition]) name = alone definition :=
    fun definition hdefinition => load_single (h definition hdefinition) name
  have hmerged : load (textOf definitions) name =
      (definitions.map fun definition =>
        load (textOf [definition]) name).foldl Loaded.merge ⟨∅, []⟩ := by
    rw [load_eq_foldl_alone h]
    exact congrArg (List.foldl Loaded.merge ⟨∅, []⟩)
      (List.map_congr_left fun definition hdefinition =>
        (hsingle definition hdefinition).symm)
  constructor
  case merged => exact hmerged
  case automata =>
    rw [hmerged, stored_foldl_merge (·.collection.automata) fun _ _ => rfl,
      List.flatMap_map]
    exact Registry.collects_insertAll _
  case grammars =>
    rw [hmerged, stored_foldl_merge (·.collection.grammars) fun _ _ => rfl,
      List.flatMap_map]
    exact Registry.collects_insertAll _
  case refusals =>
    rw [hmerged, refusals_foldl_merge, List.flatMap_map]
    exact List.nil_append _
  case gives_or_fails => exact fun definition _ => gives_or_fails definition
  case given =>
    intro definition hdefinition automata grammars hgives
    rw [hsingle definition hdefinition, hgives.alone_eq]
    exact ⟨Registry.entries_insertAll hgives.nodup.1,
      Registry.entries_insertAll hgives.nodup.2, rfl⟩
  case failed =>
    rintro before definition after refusal rfl hfails
    have hbefore := fun other hother =>
      h other (List.mem_append_left _ hother)
    have hafter := fun other hother =>
      h other (List.mem_append_right _ (List.mem_cons_of_mem definition hother))
    refine ⟨?_, ?_⟩
    · rw [hsingle definition (by simp), hfails.alone_eq]
    · rw [load_eq_foldl_alone h, load_eq_foldl_alone hbefore,
        load_eq_foldl_alone hafter, load_eq_foldl_alone
          (List.forall_mem_append.mpr ⟨hbefore, hafter⟩)]
      exact foldl_merge_of_fails hfails before after
  case keywords => exact fun reserved => not_isHeader_of_reserved

section Mixed

/-- A keyword line ends the body. -/
def automatonSection : Section :=
  ⟨"nea", "states: p\nstart: p\naccept:".toList⟩

def brokenSection : Section := ⟨"bad", "S -> abc".toList⟩

def grammarSection : Section := ⟨"good", "S -> a\n".toList⟩

theorem mixedSections_wellFormed :
    ∀ definition ∈ [automatonSection, brokenSection, grammarSection],
      definition.WellFormed := by
  have hbody : ∀ definition ∈
      [automatonSection, brokenSection, grammarSection],
        ∀ line ∈ lines definition.body, headerName? line = none := by
    decide +kernel
  have hname : ∀ definition ∈
      [automatonSection, brokenSection, grammarSection],
        isSectionName definition.name.toList = true ∧
          definition.name ∉ reservedNames := by
    decide +kernel
  exact fun definition hdefinition =>
    ⟨(hname definition hdefinition).1, (hname definition hdefinition).2,
      isHeadless_iff.mpr (hbody definition hdefinition)⟩

theorem mixedSections_load :
    (load (textOf [automatonSection, brokenSection, grammarSection])
        "main").collection =
      (load (textOf [automatonSection, grammarSection]) "main").collection ∧
    (load (textOf [automatonSection, brokenSection, grammarSection])
        "main").refusals = [.grammar "bad" (.notRightLinear "S" "abc")] := by
  have hturn :=
    load_sections_independently mixedSections_wellFormed "main"
  have hreported : (load (textOf [brokenSection]) "main").refusals =
      [.grammar "bad" (.notRightLinear "S" "abc")] := by decide +kernel
  have hunread : ¬ ∃ automata grammars,
      Gives brokenSection automata grammars := by
    rintro ⟨automata, grammars, hgives⟩
    have hnone := (hturn.given brokenSection (by simp) _ _ hgives).2.2
    rw [hreported] at hnone
    exact List.cons_ne_nil _ _ hnone
  obtain ⟨refusal, hfails⟩ :=
    (hturn.gives_or_fails brokenSection (by simp)).resolve_left hunread
  obtain ⟨halone, hall⟩ := hturn.failed [automatonSection] brokenSection
    [grammarSection] refusal rfl hfails
  have hbefore : (load (textOf [automatonSection]) "main").refusals = [] := by
    decide +kernel
  have hafter : (load (textOf [grammarSection]) "main").refusals = [] := by
    decide +kernel
  rw [halone] at hreported
  have hrefusal : [refusal] = _ := hreported
  rw [hbefore, hafter, List.nil_append, hrefusal, List.singleton_append] at hall
  constructor
  · rw [hall]
  · rw [hall]

end Mixed

end RightLinear.Collection
