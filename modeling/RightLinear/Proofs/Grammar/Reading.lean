import Mathlib.Data.List.Infix
import Mathlib.Data.List.Lex
import RightLinear.Grammar.Basic

/-! The preferred reading of a text against all of its readings.  A text has
one as soon as it can be put together from symbols.  Symbols are tried longest
first, so the first symbol of the preferred reading is the longest that any
reading begins with. -/

namespace RightLinear.Grammar

section Search

variable {vocabulary : Vocabulary} {text : List Char}

/-- One way to put `text` together. -/
structure IsReading (vocabulary : Vocabulary) (symbols : List (List Char))
    (text : List Char) : Prop where
  mem : ∀ symbol ∈ symbols, symbol ∈ vocabulary
  flatten : symbols.flatten = text

theorem IsReading.tail {symbol : List Char} {symbols : List (List Char)}
    (h : IsReading vocabulary (symbol :: symbols) (symbol ++ text)) :
    IsReading vocabulary symbols text where
  mem := fun other hother => h.mem other (List.mem_cons_of_mem _ hother)
  flatten := List.append_cancel_left h.flatten

/-- The preferred reading of a text: the first symbol that leads on is taken,
and nothing is remembered. -/
def reading (vocabulary : Vocabulary) :
    List Char → Option (List (List Char))
  | [] => some []
  | character :: rest =>
      vocabulary.symbols.attach.findSome? fun ⟨symbol, _⟩ =>
        if symbol.isPrefixOf (character :: rest) then
          (reading vocabulary ((character :: rest).drop symbol.length)).map
            (symbol :: ·)
        else none
termination_by text => text.length
decreasing_by
  have hpositive := List.length_pos_iff.mpr (vocabulary.ne_nil symbol ‹_›)
  rw [List.length_drop, List.length_cons]
  omega

/-- The preferred reading of `text` among those that begin with `symbol`. -/
def readingFrom (vocabulary : Vocabulary) (text symbol : List Char) :
    Option (List (List Char)) :=
  if symbol.isPrefixOf text then
    (reading vocabulary (text.drop symbol.length)).map (symbol :: ·)
  else none

@[simp] theorem reading_nil : reading vocabulary [] = some [] := by
  rw [reading]

theorem reading_cons (character : Char) (rest : List Char) :
    reading vocabulary (character :: rest) =
      vocabulary.symbols.findSome?
        (readingFrom vocabulary (character :: rest)) := by
  rw [reading]
  conv_rhs =>
    rw [← List.attach_map_subtype_val vocabulary.symbols, List.findSome?_map]
  rfl

theorem reading_append {symbol : List Char} (hsymbol : symbol ∈ vocabulary)
    (rest : List Char) :
    reading vocabulary (symbol ++ rest) =
      vocabulary.symbols.findSome?
        (readingFrom vocabulary (symbol ++ rest)) := by
  obtain ⟨first, symbol, rfl⟩ :=
    List.exists_cons_of_ne_nil (vocabulary.ne_nil symbol hsymbol)
  exact reading_cons first (symbol ++ rest)

theorem readingFrom_append (symbol rest : List Char) :
    readingFrom vocabulary (symbol ++ rest) symbol =
      (reading vocabulary rest).map (symbol :: ·) := by
  rw [readingFrom, if_pos, List.drop_left]
  rw [List.isPrefixOf_iff_prefix]
  exact List.prefix_append symbol rest

theorem readingFrom_eq_some_iff {symbol : List Char}
    {symbols : List (List Char)} :
    readingFrom vocabulary text symbol = some symbols ↔
      ∃ later rest, symbols = symbol :: later ∧ text = symbol ++ rest ∧
        reading vocabulary rest = some later := by
  constructor
  · intro hreading
    rw [readingFrom] at hreading
    split at hreading
    · next hprefix =>
        obtain ⟨rest, rfl⟩ := List.isPrefixOf_iff_prefix.mp hprefix
        obtain ⟨later, hlater, rfl⟩ := Option.map_eq_some_iff.mp hreading
        rw [List.drop_left] at hlater
        exact ⟨later, rest, rfl, rfl, hlater⟩
    · contradiction
  · rintro ⟨later, rest, rfl, rfl, hlater⟩
    rw [readingFrom_append, hlater]
    rfl

theorem reading_eq_some_cons {first : List Char} {later : List (List Char)}
    (h : reading vocabulary text = some (first :: later)) :
    first ∈ vocabulary ∧ ∃ rest, text = first ++ rest ∧
      reading vocabulary rest = some later := by
  cases text with
  | nil =>
      rw [reading_nil] at h
      cases h
  | cons character rest =>
      rw [reading_cons] at h
      obtain ⟨symbol, hsymbol, hreading⟩ := List.exists_of_findSome?_eq_some h
      obtain ⟨others, remainder, heq, htext, hothers⟩ :=
        readingFrom_eq_some_iff.mp hreading
      cases heq
      exact ⟨hsymbol, remainder, htext, hothers⟩

theorem reading_eq_some_nil (h : reading vocabulary text = some []) :
    text = [] := by
  cases text with
  | nil => rfl
  | cons character rest =>
      rw [reading_cons] at h
      obtain ⟨symbol, _, hreading⟩ := List.exists_of_findSome?_eq_some h
      obtain ⟨_, _, heq, _⟩ := readingFrom_eq_some_iff.mp hreading
      contradiction

theorem isReading_of_reading {symbols : List (List Char)}
    (h : reading vocabulary text = some symbols) :
    IsReading vocabulary symbols text := by
  induction symbols generalizing text with
  | nil =>
      obtain rfl := reading_eq_some_nil h
      exact ⟨fun _ hmem => absurd hmem List.not_mem_nil, rfl⟩
  | cons symbol later ih =>
      obtain ⟨hsymbol, rest, rfl, hlater⟩ := reading_eq_some_cons h
      have hrest := ih hlater
      refine ⟨List.forall_mem_cons.mpr ⟨hsymbol, hrest.mem⟩, ?_⟩
      rw [List.flatten_cons, hrest.flatten]

theorem exists_reading {symbols : List (List Char)}
    (h : IsReading vocabulary symbols text) :
    ∃ preferred, reading vocabulary text = some preferred := by
  induction symbols generalizing text with
  | nil =>
      cases h.flatten
      exact ⟨[], reading_nil⟩
  | cons symbol symbols ih =>
      have hsymbol := h.mem symbol List.mem_cons_self
      obtain rfl : symbol ++ symbols.flatten = text := h.flatten
      obtain ⟨later, hlater⟩ := ih h.tail
      have hfrom : (readingFrom vocabulary (symbol ++ symbols.flatten)
          symbol).isSome = true := by
        rw [readingFrom_append, hlater]
        rfl
      rw [reading_append hsymbol, ← Option.isSome_iff_exists,
        List.findSome?_isSome_iff]
      exact ⟨symbol, hsymbol, hfrom⟩

/-- The preferred reading begins with the longest symbol that any reading
begins with. -/
theorem length_le_of_reading
    {first symbol : List Char} {later symbols : List (List Char)}
    (hpreferred : reading vocabulary text = some (first :: later))
    (h : IsReading vocabulary (symbol :: symbols) text) :
    symbol.length ≤ first.length := by
  have hsymbol := h.mem symbol List.mem_cons_self
  obtain rfl : symbol ++ symbols.flatten = text := h.flatten
  obtain ⟨tail, htail⟩ := exists_reading h.tail
  have hfrom : readingFrom vocabulary (symbol ++ symbols.flatten) symbol =
      some (symbol :: tail) := by
    rw [readingFrom_append, htail]
    rfl
  rw [reading_append hsymbol, List.findSome?_eq_some_iff] at hpreferred
  obtain ⟨earlier, chosen, others, hsymbols, hchosen, hearlier⟩ := hpreferred
  obtain ⟨_, _, heq, _⟩ := readingFrom_eq_some_iff.mp hchosen
  obtain ⟨rfl, _⟩ := List.cons.inj heq
  have hsorted := vocabulary.longest_first
  change symbol ∈ vocabulary.symbols at hsymbol
  rw [hsymbols] at hsorted hsymbol
  rcases List.mem_append.mp hsymbol with hin | hin
  · rw [hearlier symbol hin] at hfrom
    contradiction
  · rcases List.mem_cons.mp hin with rfl | hlater
    · exact Nat.le_refl _
    · exact (List.pairwise_cons.mp (List.pairwise_append.mp hsorted).2.1).1 _ hlater

/-- Where the preferred reading takes the text character by character, no other
reading finds a longer symbol anywhere. -/
theorem eq_reading_of_length_one {preferred symbols : List (List Char)}
    (hpreferred : reading vocabulary text = some preferred)
    (hlength : ∀ symbol ∈ preferred, symbol.length = 1)
    (h : IsReading vocabulary symbols text) : symbols = preferred := by
  induction symbols generalizing text preferred with
  | nil =>
      cases h.flatten
      rw [List.flatten_nil, reading_nil] at hpreferred
      exact Option.some.inj hpreferred
  | cons symbol symbols ih =>
      have hsymbol := vocabulary.ne_nil symbol (h.mem symbol List.mem_cons_self)
      obtain rfl : symbol ++ symbols.flatten = text := h.flatten
      cases preferred with
      | nil =>
          have hempty := reading_eq_some_nil hpreferred
          exact absurd (List.append_eq_nil_iff.mp hempty).1 hsymbol
      | cons first later =>
          have hle := length_le_of_reading hpreferred h
          have hfirst := hlength first List.mem_cons_self
          have hpositive := List.length_pos_iff.mpr hsymbol
          obtain ⟨_, rest, heq, hrest⟩ :=
            reading_eq_some_cons hpreferred
          obtain ⟨rfl, rfl⟩ := List.append_inj heq (by omega)
          rw [ih hrest (List.forall_mem_cons.mp hlength).2 h.tail]

/-- At the first place where another reading differs from the preferred one, it
has a shorter symbol. -/
theorem lex_of_reading {preferred symbols : List (List Char)}
    (hpreferred : reading vocabulary text = some preferred)
    (h : IsReading vocabulary symbols text) (hne : symbols ≠ preferred) :
    List.Lex (· < ·) (symbols.map List.length)
      (preferred.map List.length) := by
  induction preferred generalizing text symbols with
  | nil =>
      cases symbols with
      | nil => contradiction
      | cons symbol symbols =>
          have hempty := reading_eq_some_nil hpreferred
          rw [← h.flatten] at hempty
          exact absurd (List.append_eq_nil_iff.mp hempty).1
            (vocabulary.ne_nil symbol (h.mem symbol List.mem_cons_self))
  | cons first later ih =>
      cases symbols with
      | nil => exact .nil
      | cons symbol symbols =>
          obtain rfl : symbol ++ symbols.flatten = text := h.flatten
          have hle := length_le_of_reading hpreferred h
          rcases Nat.lt_or_eq_of_le hle with hlt | hlength
          · exact .rel hlt
          · obtain ⟨_, rest, heq, hrest⟩ := reading_eq_some_cons hpreferred
            obtain ⟨rfl, rfl⟩ := List.append_inj heq hlength
            have hlater : symbols ≠ later := fun hsame => hne (hsame ▸ rfl)
            exact .cons (ih hrest h.tail hlater)

/-- The preferred reading depends on what the symbols are, and not on the order
of those of one length. -/
theorem reading_congr {first second : Vocabulary}
    (hsame : ∀ symbol, symbol ∈ first ↔ symbol ∈ second) (text : List Char) :
    reading first text = reading second text := by
  have hswap : ∀ {symbols : List (List Char)},
      IsReading first symbols text ↔ IsReading second symbols text := by
    intro symbols
    exact ⟨fun h => ⟨fun symbol hin => (hsame symbol).mp (h.mem symbol hin),
        h.flatten⟩,
      fun h => ⟨fun symbol hin => (hsame symbol).mpr (h.mem symbol hin),
        h.flatten⟩⟩
  cases hfirst : reading first text with
  | none =>
      cases hsecond : reading second text with
      | none => rfl
      | some symbols =>
          obtain ⟨preferred, hpreferred⟩ :=
            exists_reading (hswap.mpr (isReading_of_reading hsecond))
          rw [hfirst] at hpreferred
          contradiction
  | some symbols =>
      have hreading := hswap.mp (isReading_of_reading hfirst)
      obtain ⟨preferred, hsecond⟩ := exists_reading hreading
      have hother := hswap.mpr (isReading_of_reading hsecond)
      rw [hsecond]
      -- Of two different readings only one can be the greater.
      by_contra hne
      have hsymbols : symbols ≠ preferred := fun heq => hne (congrArg some heq)
      exact (List.Lex.asymm (· < ·)).asymm _ _
        (lex_of_reading hsecond hreading hsymbols)
        (lex_of_reading hfirst hother hsymbols.symm)

end Search

section Memory

open Vocabulary (DeadEnds)

variable {vocabulary : Vocabulary} {whole text : List Char}
  {deadEnds : DeadEnds}

/-- No text that ends `whole` has a reading if its place is remembered. -/
def AreDead (vocabulary : Vocabulary) (whole : List Char)
    (deadEnds : DeadEnds) : Prop :=
  ∀ rest, rest <:+ whole → rest.length ∈ deadEnds →
    reading vocabulary rest = none

theorem areDead_nil : AreDead vocabulary whole [] := by
  intro rest _ hplace
  contradiction

/-- What is left of a text is known by its length. -/
theorem AreDead.cons (h : AreDead vocabulary whole deadEnds)
    (htext : text <:+ whole) (hnone : reading vocabulary text = none) :
    AreDead vocabulary whole (text.length :: deadEnds) := by
  intro rest hrest hplace
  rcases List.mem_cons.mp hplace with hlength | hearlier
  · have hsuffix := List.suffix_of_suffix_length_le hrest htext hlength.le
    rwa [hsuffix.eq_of_length hlength]
  · exact h rest hrest hearlier

/-- A search that answers with the preferred reading and remembers nothing but
dead ends. -/
structure Finds (vocabulary : Vocabulary) (whole text : List Char)
    (result : Option (List (List Char)) × DeadEnds) : Prop where
  found : result.1 = reading vocabulary text
  dead : AreDead vocabulary whole result.2

/-- By induction on the candidates: those before them do not lead on. -/
theorem finds_tryEach (htext : text <:+ whole)
    (hshorter : ∀ rest known, rest <:+ whole → rest.length < text.length →
      AreDead vocabulary whole known →
        Finds vocabulary whole rest (vocabulary.readFrom rest known))
    {candidates : List (List Char)}
    (hcandidates : ∀ symbol ∈ candidates, symbol ≠ [])
    (hreading : reading vocabulary text =
      candidates.findSome? (readingFrom vocabulary text))
    (hdead : AreDead vocabulary whole deadEnds) :
    Finds vocabulary whole text
      (vocabulary.tryEach candidates hcandidates text deadEnds) := by
  induction candidates generalizing deadEnds with
  | nil =>
      rw [Vocabulary.tryEach]
      exact ⟨hreading.symm, hdead.cons htext hreading⟩
  | cons symbol later ih =>
      rw [Vocabulary.tryEach]
      rw [List.findSome?_cons] at hreading
      split
      · next hprefix =>
          rw [readingFrom, if_pos hprefix] at hreading
          have hpositive := List.length_pos_iff.mpr
            (hcandidates symbol List.mem_cons_self)
          have hle := (List.isPrefixOf_iff_prefix.mp hprefix).length_le
          have hrest := hshorter (text.drop symbol.length) deadEnds
            ((List.drop_suffix _ _).trans htext)
            (by rw [List.length_drop]; omega) hdead
          rw [← hrest.found] at hreading
          cases hread : vocabulary.readFrom (text.drop symbol.length) deadEnds with
          | mk answer known =>
              rw [hread] at hrest hreading
              cases answer with
              | none => exact ih _ hreading hrest.dead
              | some symbols => exact ⟨hreading.symm, hrest.dead⟩
      · next hprefix =>
          rw [readingFrom, if_neg hprefix] at hreading
          exact ih _ hreading hdead

/-- By induction on how much of the text is left. -/
theorem finds_readFrom (htext : text <:+ whole)
    (hdead : AreDead vocabulary whole deadEnds) :
    Finds vocabulary whole text (vocabulary.readFrom text deadEnds) := by
  induction hlength : text.length using Nat.strong_induction_on
    generalizing text deadEnds with
  | _ length ih =>
      subst hlength
      rw [Vocabulary.readFrom]
      cases text with
      | nil => exact ⟨reading_nil.symm, hdead⟩
      | cons character rest =>
          rw [if_neg (by simp)]
          split
          · next hplace => exact ⟨(hdead _ htext hplace).symm, hdead⟩
          · exact finds_tryEach htext
              (fun later known hlater hlt hknown => ih _ hlt hlater hknown rfl)
              vocabulary.ne_nil (reading_cons character rest) hdead

/-- The same reading, found without remembering dead ends. -/
def splitPlainly (symbols : List String) (text : String) :
    Option (List String) :=
  (reading (.ofSymbols symbols) text.toList).map (·.map String.ofList)

theorem splitWith_eq (symbols : List String) (text : String) :
    splitWith symbols text = splitPlainly symbols text := by
  have hfinds : Finds (.ofSymbols symbols) text.toList text.toList _ :=
    finds_readFrom List.suffix_rfl areDead_nil
  rw [splitWith, hfinds.found, splitPlainly]

end Memory

section Symbols

variable {nonterminals terminals : SortedSet String}

/-- The symbols that a left-hand side is read in. -/
def vocabulary (nonterminals terminals : SortedSet String) : Vocabulary :=
  .ofSymbols (nonterminals.union terminals).toList

theorem mem_vocabulary_iff {symbol : List Char} :
    symbol ∈ vocabulary nonterminals terminals ↔
      (String.ofList symbol ∈ nonterminals ∨ String.ofList symbol ∈ terminals) ∧
        symbol ≠ [] := by
  rw [vocabulary, Vocabulary.mem_ofSymbols, SortedSet.mem_toList,
    SortedSet.mem_union]

theorem isReading_map_toList {symbols : List String}
    (hdeclared : ∀ symbol ∈ symbols,
      symbol ∈ nonterminals ∨ symbol ∈ terminals)
    (hnonempty : ∀ symbol ∈ symbols, symbol ≠ "") :
    IsReading (vocabulary nonterminals terminals) (symbols.map String.toList)
      (String.join symbols).toList where
  mem := by
    rw [List.forall_mem_map]
    intro symbol hsymbol
    rw [mem_vocabulary_iff, String.ofList_toList]
    exact ⟨hdeclared symbol hsymbol,
      fun hnil => hnonempty symbol hsymbol (String.toList_eq_nil_iff.mp hnil)⟩
  flatten := by
    rw [String.toList_join, List.flatMap_def]

theorem join_eq_of_length_one {symbols : List String} {symbol : String}
    (hlength : (String.join symbols).length = 1) (hmem : symbol ∈ symbols)
    (hnonempty : symbol ≠ "") : String.join symbols = symbol := by
  obtain ⟨before, after, rfl⟩ := List.append_of_mem hmem
  have hpositive : symbol.toList.length ≠ 0 := by
    rw [Ne, List.length_eq_zero_iff, String.toList_eq_nil_iff]
    exact hnonempty
  rw [← String.length_toList, String.toList_join, List.flatMap_append,
    List.flatMap_cons, List.length_append, List.length_append] at hlength
  have hbefore : before.flatMap String.toList = [] :=
    List.length_eq_zero_iff.mp (by omega)
  have hafter : after.flatMap String.toList = [] :=
    List.length_eq_zero_iff.mp (by omega)
  apply String.toList_injective
  rw [String.toList_join, List.flatMap_append, List.flatMap_cons, hbefore,
    hafter, List.nil_append, List.append_nil]

/-- However a sequence of symbols with a non-terminal among them is read back,
the reading has a non-terminal in it. -/
theorem isLeftSide_join
    (hterminals : ∀ terminal ∈ terminals, terminal.length = 1)
    {symbols : List String}
    (hdeclared : ∀ symbol ∈ symbols,
      symbol ∈ nonterminals ∨ symbol ∈ terminals)
    (hnonempty : ∀ symbol ∈ symbols, symbol ≠ "") {nonterminal : String}
    (hmem : nonterminal ∈ symbols) (hnonterminal : nonterminal ∈ nonterminals) :
    IsLeftSide nonterminals terminals (String.join symbols) := by
  by_cases hsymbol : String.join symbols ∈ nonterminals
  · exact isLeftSide_of_mem hsymbol
  have hother : String.join symbols ∉ terminals := by
    intro hterminal
    have heq := join_eq_of_length_one (hterminals _ hterminal) hmem
      (hnonempty _ hmem)
    exact hsymbol (heq ▸ hnonterminal)
  have hreading := isReading_map_toList hdeclared hnonempty
  obtain ⟨preferred, hpreferred⟩ := exists_reading hreading
  refine ⟨preferred.map String.ofList, ?_, ?_⟩
  · rw [splitSymbols, if_neg (not_or.mpr ⟨hsymbol, hother⟩), splitWith_eq]
    exact congrArg (Option.map (·.map String.ofList)) hpreferred
  -- A reading without non-terminals takes the text terminal by terminal, and
  -- would be the only one.
  by_contra hnone
  have hlength : ∀ symbol ∈ preferred, symbol.length = 1 := by
    intro symbol hin
    have hdeclaredSymbol := (mem_vocabulary_iff.mp
      ((isReading_of_reading hpreferred).mem symbol hin)).1
    rcases hdeclaredSymbol with hleft | hright
    · exact absurd ⟨_, List.mem_map_of_mem hin, hleft⟩ hnone
    · have hone := hterminals _ hright
      rwa [String.length_ofList] at hone
  have heq := eq_reading_of_length_one hpreferred hlength hreading
  refine hnone ⟨nonterminal, List.mem_map.mpr ⟨nonterminal.toList, ?_,
    String.ofList_toList⟩, hnonterminal⟩
  rw [← heq]
  exact List.mem_map_of_mem hmem

end Symbols

end RightLinear.Grammar
