import RightLinear.SortedSet

/-! Reading a text that is written without separators as a sequence of grammar
symbols.  Longer symbols are tried first; a shorter one is tried where the text
after the longer one has no reading.  Where no symbol leads on is remembered, so
that no place in the text is searched twice. -/

namespace RightLinear.Grammar

/-- The symbols that can stand in a sequence, longest first. -/
structure Vocabulary where
  symbols : List (List Char)
  ne_nil : ∀ symbol ∈ symbols, symbol ≠ []
  longest_first : symbols.Pairwise fun first second =>
    second.length ≤ first.length

namespace Vocabulary

instance : Membership (List Char) Vocabulary where
  mem vocabulary symbol := symbol ∈ vocabulary.symbols

/-- Symbols of one length keep the order in which they are given. -/
def ofSymbols (symbols : List String) : Vocabulary where
  symbols := ((symbols.map String.toList).filter (!·.isEmpty)).mergeSort
    fun first second => second.length ≤ first.length
  ne_nil := by
    intro symbol hsymbol
    have hkept := (List.mem_filter.mp (List.mem_mergeSort.mp hsymbol)).2
    rwa [Bool.not_eq_true', List.isEmpty_eq_false_iff] at hkept
  longest_first := by
    refine (List.pairwise_mergeSort ?_ ?_ _).imp of_decide_eq_true
    · intro first second third hfirst hsecond
      rw [decide_eq_true_iff] at *
      exact Nat.le_trans hsecond hfirst
    · intro first second
      rw [Bool.or_eq_true, decide_eq_true_iff, decide_eq_true_iff]
      exact Nat.le_total _ _

@[simp] theorem mem_ofSymbols {symbols : List String} {symbol : List Char} :
    symbol ∈ ofSymbols symbols ↔
      String.ofList symbol ∈ symbols ∧ symbol ≠ [] := by
  change symbol ∈ (ofSymbols symbols).symbols ↔ _
  simp only [ofSymbols, List.mem_mergeSort, List.mem_filter, List.mem_map,
    Bool.not_eq_true', List.isEmpty_eq_false_iff]
  apply and_congr_left
  intro _
  constructor
  · rintro ⟨name, hname, rfl⟩
    rwa [String.ofList_toList]
  · intro hsymbol
    exact ⟨String.ofList symbol, hsymbol, String.toList_ofList⟩

/-- Places from which a text has no reading, each given by the number of
characters after it. -/
abbrev DeadEnds := List Nat

mutual

/-- The first reading that is found of a text, and the dead ends that are known
after it. -/
def readFrom (vocabulary : Vocabulary) (text : List Char)
    (deadEnds : DeadEnds) : Option (List (List Char)) × DeadEnds :=
  if text.isEmpty then (some [], deadEnds)
  else if text.length ∈ deadEnds then (none, deadEnds)
  else vocabulary.tryEach vocabulary.symbols vocabulary.ne_nil text deadEnds
termination_by (text.length, vocabulary.symbols.length + 1)

/-- The first reading that begins with one of the candidates. -/
def tryEach (vocabulary : Vocabulary) (candidates : List (List Char))
    (hcandidates : ∀ symbol ∈ candidates, symbol ≠ []) (text : List Char)
    (deadEnds : DeadEnds) : Option (List (List Char)) × DeadEnds :=
  match candidates, hcandidates with
  | [], _ => (none, text.length :: deadEnds)
  | symbol :: later, hcandidates =>
      have hlater := (List.forall_mem_cons.mp hcandidates).2
      if symbol.isPrefixOf text then
        match vocabulary.readFrom (text.drop symbol.length) deadEnds with
        | (some symbols, deadEnds) => (some (symbol :: symbols), deadEnds)
        | (none, deadEnds) => vocabulary.tryEach later hlater text deadEnds
      else vocabulary.tryEach later hlater text deadEnds
termination_by (text.length, candidates.length)
decreasing_by
  · have hpositive := List.length_pos_iff.mpr
      (List.forall_mem_cons.mp hcandidates).1
    have hle := (List.isPrefixOf_iff_prefix.mp ‹_›).length_le
    rw [List.length_drop]
    exact .left _ _ (by omega)
  · exact .right _ (Nat.lt_succ_self _)
  · exact .right _ (Nat.lt_succ_self _)

end

end Vocabulary

/-- The reading of a text in some symbols, given in any order. -/
def splitWith (symbols : List String) (text : String) : Option (List String) :=
  ((Vocabulary.ofSymbols symbols).readFrom text.toList []).1.map
    (·.map String.ofList)

/-- A text that is itself a symbol is read as that symbol. -/
def splitSymbols (nonterminals terminals : SortedSet String) (text : String) :
    Option (List String) :=
  if text ∈ nonterminals ∨ text ∈ terminals then some [text]
  else splitWith (nonterminals.union terminals).toList text

end RightLinear.Grammar
