import RightLinear.Proofs.Grammar.Reading

/-! The split of a left-hand side among all ways to write it in declared
symbols.  Wherever another way differs from it first, the split has the longer
symbol.  This says which one it is, so the order in which symbols are tried and
the dead ends that are remembered play no part in it. -/

namespace RightLinear.Grammar

/-- One way to write a text in declared symbols. -/
structure IsSplit (nonterminals terminals : SortedSet String)
    (symbols : List String) (text : String) : Prop where
  declared : ∀ symbol ∈ symbols, symbol ∈ nonterminals ∨ symbol ∈ terminals
  nonempty : ∀ symbol ∈ symbols, symbol ≠ ""
  join : String.join symbols = text

/-- The split of which the lengths of the symbols are lexicographically
greatest. -/
structure IsPreferred (nonterminals terminals : SortedSet String)
    (symbols : List String) (text : String) : Prop where
  isSplit : IsSplit nonterminals terminals symbols text
  greatest : ∀ other, IsSplit nonterminals terminals other text →
    other ≠ symbols →
      List.Lex (· < ·) (other.map String.length) (symbols.map String.length)

section Readings

variable {nonterminals terminals : SortedSet String} {symbols : List String}
  {text : String}

theorem IsSplit.isReading (h : IsSplit nonterminals terminals symbols text) :
    IsReading (vocabulary nonterminals terminals)
      (symbols.map String.toList) text.toList := by
  have hreading := isReading_map_toList h.declared h.nonempty
  rwa [h.join] at hreading

theorem isSplit_of_isReading {pieces : List (List Char)}
    (h : IsReading (vocabulary nonterminals terminals) pieces text.toList) :
    IsSplit nonterminals terminals (pieces.map String.ofList) text where
  declared := by
    rw [List.forall_mem_map]
    exact fun piece hpiece => (mem_vocabulary_iff.mp (h.mem piece hpiece)).1
  nonempty := by
    rw [List.forall_mem_map]
    intro piece hpiece hempty
    apply (mem_vocabulary_iff.mp (h.mem piece hpiece)).2
    rw [← String.toList_ofList (l := piece), hempty]
    rfl
  join := by
    apply String.toList_injective
    rw [String.toList_join, List.flatMap_map, ← h.flatten, List.flatMap_def]
    simp only [String.toList_ofList, List.map_id']

theorem map_ofList_map_toList (symbols : List String) :
    (symbols.map String.toList).map String.ofList = symbols := by
  rw [List.map_map, String.ofList_comp_toList, List.map_id]

theorem map_length_map_ofList (pieces : List (List Char)) :
    (pieces.map String.ofList).map String.length = pieces.map List.length := by
  rw [List.map_map]
  exact List.map_congr_left fun piece _ => String.length_ofList

theorem isPreferred_of_reading {pieces : List (List Char)}
    (h : reading (vocabulary nonterminals terminals) text.toList =
      some pieces) :
    IsPreferred nonterminals terminals (pieces.map String.ofList) text where
  isSplit := isSplit_of_isReading (isReading_of_reading h)
  greatest := by
    intro other hother hne
    have hdiffers : other.map String.toList ≠ pieces := by
      rintro rfl
      exact hne (map_ofList_map_toList other).symm
    have hless := lex_of_reading h hother.isReading hdiffers
    rwa [← map_length_map_ofList, map_ofList_map_toList,
      ← map_length_map_ofList] at hless

/-- Of two splits with the greatest lengths neither is greater. -/
theorem IsPreferred.eq {other : List String}
    (h : IsPreferred nonterminals terminals symbols text)
    (hother : IsPreferred nonterminals terminals other text) :
    symbols = other := by
  by_contra hne
  exact (List.Lex.asymm (· < ·)).asymm _ _
    (h.greatest other hother.isSplit (Ne.symm hne))
    (hother.greatest symbols h.isSplit hne)

/-- Where every symbol is a single character there is one way only. -/
theorem IsSplit.isPreferred
    (hlength : ∀ symbol, symbol ∈ nonterminals ∨ symbol ∈ terminals →
      symbol.length = 1)
    (h : IsSplit nonterminals terminals symbols text) :
    IsPreferred nonterminals terminals symbols text := by
  obtain ⟨pieces, hpieces⟩ := exists_reading h.isReading
  have hshort : ∀ piece ∈ pieces, piece.length = 1 := by
    intro piece hpiece
    have hdeclared :=
      (mem_vocabulary_iff.mp ((isReading_of_reading hpieces).mem piece hpiece)).1
    rw [← String.length_ofList]
    exact hlength _ hdeclared
  have heq := eq_reading_of_length_one hpieces hshort h.isReading
  rw [← map_ofList_map_toList symbols, heq]
  exact isPreferred_of_reading hpieces

/-- The order of the symbols makes no difference. -/
theorem splitPlainly_eq {order : List String}
    (horder : ∀ symbol, symbol ∈ order ↔
      symbol ∈ nonterminals ∨ symbol ∈ terminals) (text : String) :
    splitPlainly order text =
      (reading (vocabulary nonterminals terminals) text.toList).map
        (·.map String.ofList) := by
  have hsame : ∀ symbol, symbol ∈ Vocabulary.ofSymbols order ↔
      symbol ∈ vocabulary nonterminals terminals := by
    intro symbol
    rw [Vocabulary.mem_ofSymbols, mem_vocabulary_iff, horder]
  rw [splitPlainly, reading_congr hsame]

theorem splitPlainly_eq_some_iff {order : List String}
    (horder : ∀ symbol, symbol ∈ order ↔
      symbol ∈ nonterminals ∨ symbol ∈ terminals) :
    splitPlainly order text = some symbols ↔
      IsPreferred nonterminals terminals symbols text := by
  rw [splitPlainly_eq horder]
  constructor
  · intro h
    obtain ⟨pieces, hpieces, rfl⟩ := Option.map_eq_some_iff.mp h
    exact isPreferred_of_reading hpieces
  · intro h
    obtain ⟨pieces, hpieces⟩ := exists_reading h.isSplit.isReading
    rw [hpieces, Option.map_some, (isPreferred_of_reading hpieces).eq h]

/-- A symbol is its own split, as nothing longer begins it. -/
theorem isPreferred_singleton (htext : text ≠ "")
    (hdeclared : text ∈ nonterminals ∨ text ∈ terminals) :
    IsPreferred nonterminals terminals [text] text where
  isSplit :=
    { declared := List.forall_mem_singleton.mpr hdeclared
      nonempty := List.forall_mem_singleton.mpr htext
      join := by simp }
  greatest := by
    intro other hother hne
    cases other with
    | nil => exact absurd hother.join.symm htext
    | cons symbol later =>
        cases later with
        | nil =>
            have hjoin := hother.join
            rw [String.join_cons, String.join_nil, String.append_empty] at hjoin
            exact absurd (hjoin ▸ rfl) hne
        | cons next later =>
            have hnext := hother.nonempty next
              (List.mem_cons_of_mem _ List.mem_cons_self)
            have hlength := congrArg String.length hother.join
            rw [String.join_cons, String.join_cons, String.length_append,
              String.length_append] at hlength
            have hpositive := mt String.length_eq_zero_iff.mp hnext
            exact .rel (by omega)

theorem mem_toList_union {symbol : String} :
    symbol ∈ (nonterminals.union terminals).toList ↔
      symbol ∈ nonterminals ∨ symbol ∈ terminals :=
  SortedSet.mem_union

/-- A text that is a symbol is found in the search as well. -/
theorem splitSymbols_eq (htext : text ≠ "") {order : List String}
    (horder : ∀ symbol, symbol ∈ order ↔
      symbol ∈ nonterminals ∨ symbol ∈ terminals) :
    splitSymbols nonterminals terminals text = splitPlainly order text := by
  rw [splitSymbols]
  split
  · next hdeclared =>
      exact ((splitPlainly_eq_some_iff horder).mpr
        (isPreferred_singleton htext hdeclared)).symm
  · rw [splitWith_eq, splitPlainly_eq fun _ => mem_toList_union,
      splitPlainly_eq horder]

theorem isSplit_of_splitSymbols (hnonterminal : text ∉ nonterminals)
    (hterminal : text ∉ terminals)
    (h : splitSymbols nonterminals terminals text = some symbols) :
    IsSplit nonterminals terminals symbols text := by
  rw [splitSymbols, if_neg (not_or.mpr ⟨hnonterminal, hterminal⟩),
    splitWith_eq] at h
  obtain ⟨pieces, hpieces, rfl⟩ := Option.map_eq_some_iff.mp h
  exact isSplit_of_isReading (isReading_of_reading hpieces)

theorem splitSymbols_eq_some_iff (htext : text ≠ "") :
    splitSymbols nonterminals terminals text = some symbols ↔
      IsPreferred nonterminals terminals symbols text := by
  rw [splitSymbols_eq htext fun _ => mem_toList_union,
    splitPlainly_eq_some_iff fun _ => mem_toList_union]

theorem IsSplit.exists_splitSymbols (htext : text ≠ "")
    (h : IsSplit nonterminals terminals symbols text) :
    ∃ found, splitSymbols nonterminals terminals text = some found := by
  obtain ⟨pieces, hpieces⟩ := exists_reading h.isReading
  exact ⟨_, (splitSymbols_eq_some_iff htext).mpr (isPreferred_of_reading hpieces)⟩

end Readings

/-- A split is found wherever there is one, and it is the preferred one.  Neither
the order of the symbols nor what is remembered of the search matters, and a text
that is a symbol itself is no exception. -/
theorem splitSymbols_finds_preferred (nonterminals terminals : SortedSet String)
    {text : String} (htext : text ≠ "") :
    ((∃ symbols, splitSymbols nonterminals terminals text = some symbols) ↔
        ∃ symbols, IsSplit nonterminals terminals symbols text) ∧
      (∀ symbols, splitSymbols nonterminals terminals text = some symbols ↔
        IsPreferred nonterminals terminals symbols text) ∧
        ∀ order : List String,
          (∀ symbol, symbol ∈ order ↔
            symbol ∈ nonterminals ∨ symbol ∈ terminals) →
          splitWith order text = splitSymbols nonterminals terminals text ∧
            splitPlainly order text =
              splitSymbols nonterminals terminals text := by
  refine ⟨⟨?_, ?_⟩, fun symbols => splitSymbols_eq_some_iff htext, ?_⟩
  · rintro ⟨symbols, hsymbols⟩
    exact ⟨symbols, ((splitSymbols_eq_some_iff htext).mp hsymbols).isSplit⟩
  · rintro ⟨symbols, hsymbols⟩
    exact hsymbols.exists_splitSymbols htext
  · intro order horder
    rw [splitWith_eq, splitSymbols_eq htext horder]
    exact ⟨rfl, rfl⟩

/-- The longest symbol that begins `ABC` leads to a dead end. -/
theorem overlapping_symbols_split :
    let nonterminals := SortedSet.ofList ["S", "A", "AB", "BC"]
    let terminals := SortedSet.ofList ["a"]
    "ABC" ≠ "" ∧
      (∃ symbols, splitSymbols nonterminals terminals "ABC" = some symbols) ∧
        splitWith ["BC", "a", "A", "S", "AB"] "ABC" =
          splitSymbols nonterminals terminals "ABC" := by
  intro nonterminals terminals
  have htext : "ABC" ≠ "" := by decide
  obtain ⟨hexists, -, horders⟩ :=
    splitSymbols_finds_preferred nonterminals terminals htext
  have hsplit : IsSplit nonterminals terminals ["A", "BC"] "ABC" :=
    ⟨by decide +kernel, by decide, rfl⟩
  refine ⟨htext, hexists.mpr ⟨_, hsplit⟩, (horders _ fun symbol => ?_).1⟩
  simp only [nonterminals, terminals, SortedSet.mem_ofList, List.mem_cons,
    List.not_mem_nil, or_false]
  grind

/-- The check of a left-hand side looks at one split only, and still notices
every non-terminal that some split has: a split without one takes the text
character by character, and then there is no other. -/
theorem leftSide_passes_iff_exists_split (description : Description)
    (hterminals : ∀ terminal ∈ description.terminals, terminal.length = 1)
    (left : String) :
    description.leftSideFault? left = none ↔
      left ∈ description.nonterminals ∨
        ∃ symbols, IsSplit description.nonterminalSet description.terminalSet
          symbols left ∧ ∃ symbol ∈ symbols, symbol ∈ description.nonterminals := by
  have hnonterminal : ∀ {symbol}, symbol ∈ description.nonterminalSet ↔
      symbol ∈ description.nonterminals := SortedSet.mem_ofList
  have hlength : ∀ terminal ∈ description.terminalSet, terminal.length = 1 :=
    fun terminal hterminal =>
      hterminals terminal (SortedSet.mem_ofList.mp hterminal)
  rw [Description.leftSideFault?_eq_none_iff]
  constructor
  · rintro ⟨symbols, hsplit, symbol, hmem, hsymbol⟩
    rw [or_iff_not_imp_left, ← hnonterminal]
    intro houtside
    by_cases hterminal : left ∈ description.terminalSet
    · rw [splitSymbols, if_pos (.inr hterminal)] at hsplit
      cases hsplit
      rw [List.mem_singleton.mp hmem] at hsymbol
      exact absurd hsymbol houtside
    · exact ⟨symbols, isSplit_of_splitSymbols houtside hterminal hsplit, symbol,
        hmem, hnonterminal.mp hsymbol⟩
  · rintro (hleft | ⟨symbols, hsplit, symbol, hmem, hsymbol⟩)
    · exact isLeftSide_of_mem (hnonterminal.mpr hleft)
    · rw [← hsplit.join]
      exact isLeftSide_join hlength hsplit.declared hsplit.nonempty hmem
        (hnonterminal.mpr hsymbol)

/-- Symbols of both kinds that overlap. -/
def overlappingDescription : Description where
  nonterminals := ["S", "a", "AB"]
  terminals := ["a", "A", "B"]
  rules := ∅
  start := "S"

theorem overlappingDescription_leftSide :
    (∀ terminal ∈ overlappingDescription.terminals, terminal.length = 1) ∧
      overlappingDescription.leftSideFault? "BAB" = none := by
  have hterminals :
      ∀ terminal ∈ overlappingDescription.terminals, terminal.length = 1 := by
    decide +kernel
  have hsplit : IsSplit overlappingDescription.nonterminalSet
      overlappingDescription.terminalSet ["B", "AB"] "BAB" :=
    ⟨by decide +kernel, by decide, rfl⟩
  exact ⟨hterminals,
    (leftSide_passes_iff_exists_split _ hterminals "BAB").mpr
      (.inr ⟨_, hsplit, "AB", by decide, by decide⟩)⟩

end RightLinear.Grammar
