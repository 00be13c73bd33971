import RightLinear.Proofs.Collection.Arrows
import RightLinear.Proofs.Collection.Sections
import RightLinear.Proofs.Collection.Stored
import RightLinear.Proofs.Grammar.Exactness

/-! Texts without headers that hold a grammar.  A text with a keyword line is
taken for automata, whatever else it may be.  Otherwise each production counts
for the grammar with its one arrow, so a text is taken for a grammar unless
other arrows make too many lines look like transitions.  Which lines these are
is said by what the lines are read as. -/

namespace RightLinear.Collection

open Text Grammar Grammar.Document

variable {text line : List Char} {grammar : Grammar}

theorem exists_of_mem_contentLines (h : line ∈ contentLines text) :
    ∃ whole ∈ lines text, trim whole = line := by
  obtain ⟨-, hwhole⟩ := mem_visible.mp (mem_contentLines.mp h).1
  exact hwhole

theorem infix_of_mem_contentLines (h : line ∈ contentLines text) :
    line <:+: text := by
  obtain ⟨whole, hwhole, rfl⟩ := exists_of_mem_contentLines h
  obtain ⟨lead, trail, -, -, heq⟩ := exists_trim whole
  exact List.IsInfix.trans ⟨lead, trail, heq.symm⟩ (infix_of_mem_lines hwhole)

section Reading

/-- Every line that says something was read, and the rules among them could be
read further. -/
theorem exists_of_read_of_mem (h : Grammar.read (String.ofList text) = .ok grammar)
    (hline : line ∈ contentLines text) :
    ∃ found, Grammar.Document.readLine line = .ok found ∧
      ∀ rule, found = .rule rule →
        ∃ entry, readProductions rule = .ok entry := by
  obtain ⟨whole, hwhole, rfl⟩ := exists_of_mem_contentLines hline
  obtain ⟨results, entries, hlines, hentries⟩ := Format.exists_of_read h
  rw [String.toList_ofList] at hlines
  obtain ⟨found, hfound, hread⟩ := exists_of_mapM hlines whole hwhole
  refine ⟨found, (readLine_trim whole).trans hread, ?_⟩
  rintro rule rfl
  have hrule : rule ∈ results.filterMap Line.rule? :=
    List.mem_filterMap.mpr ⟨_, hfound, rfl⟩
  obtain ⟨entry, -, hentry⟩ := exists_of_mapM hentries rule hrule
  exact ⟨entry, hentry⟩

theorem trim_ne_nil_of_rule {rule : Rule}
    (h : Grammar.Document.readLine line = .ok (.rule rule)) :
    trim line ≠ [] ∧ (trim line).head? ≠ some '#' := by
  rw [← readLine_trim] at h
  constructor
  · intro hnil
    rw [hnil] at h
    cases h
  · intro hhead
    obtain ⟨rest, hrest⟩ := List.head?_eq_some_iff.mp hhead
    rw [hrest] at h
    cases h

/-- A text that is read has a rule. -/
theorem exists_rule_of_read (h : Grammar.read (String.ofList text) = .ok grammar) :
    ∃ line ∈ contentLines text, ∃ rule,
      Grammar.Document.readLine line = .ok (.rule rule) := by
  obtain ⟨results, entries, hlines, -⟩ := Format.exists_of_read h
  rw [Grammar.read, hlines] at h
  simp only [bind, Except.bind] at h
  split at h
  · contradiction
  · next hrules =>
      obtain ⟨rule, hrule⟩ := List.exists_mem_of_ne_nil _
        (fun hnil => hrules (List.isEmpty_iff.mpr hnil))
      obtain ⟨result, hresult, hsome⟩ := List.mem_filterMap.mp hrule
      rw [String.toList_ofList] at hlines
      obtain ⟨whole, hwhole, hread⟩ := exists_mem_of_mapM hlines result hresult
      cases result with
      | blank => contradiction
      | start symbol => contradiction
      | rule rule =>
          have hvisible := trim_ne_nil_of_rule hread
          refine ⟨trim whole, mem_contentLines.mpr
            ⟨mem_visible.mpr ⟨hvisible.1, whole, hwhole, rfl⟩, hvisible.2⟩,
            rule, (readLine_trim whole).trans hread⟩

end Reading

section Guess

variable (hread : Grammar.read (String.ofList text) = .ok grammar)
  (hmark : ¬ ('|' ∈ text ∨ "::=".toList <:+: text))
include hread hmark

theorem arrowCount_of_mem (hline : line ∈ contentLines text) :
    arrowCount line = arrowsOf line := by
  have hinside := infix_of_mem_contentLines hline
  obtain ⟨found, hfound, hproductions⟩ := exists_of_read_of_mem hread hline
  exact arrowCount_eq_arrowsOf hfound hproductions
    (fun hin => hmark (.inl (hinside.subset hin)))
    fun hoccurs => hmark (.inr (hoccurs.trans hinside))

theorem arrowLines_ne_nil : (contentLines text).filter hasArrow ≠ [] := by
  obtain ⟨line, hline, rule, hrule⟩ := exists_rule_of_read hread
  have hcount := arrowCount_of_mem hread hmark hline
  simp only [arrowsOf, hrule] at hcount
  have harrow : hasArrow line = true := by
    rw [hasArrow_iff, hcount, Nat.add_right_comm]
    exact Nat.succ_ne_zero _
  exact List.ne_nil_of_mem (List.mem_filter.mpr ⟨hline, harrow⟩)

theorem countP_arrowParts {number : Nat} (hnumber : number ≠ 0) :
    ((contentLines text).filter hasArrow).countP
        (fun line => (arrowParts line).length == number + 1) =
      (contentLines text).countP (arrowsOf · = number) := by
  rw [countP_arrowLines hnumber]
  apply List.countP_congr
  intro line hline
  rw [arrowCount_of_mem hread hmark hline]

end Guess

/-- What a text is taken for a grammar by: no line begins like a line that only
automata have, and unless a bar or `::=` settles it at least as many lines have
one arrow as have two. -/
structure LooksLikeGrammar (text : List Char) : Prop where
  no_keyword : ∀ line ∈ contentLines text, ¬ BeginsWithKeyword line
  arrows : ('|' ∈ text ∨ "::=".toList <:+: text) ∨
    (contentLines text).countP (arrowsOf · = 2) ≤
      (contentLines text).countP (arrowsOf · = 1)

theorem looksLikeAutomaton_eq_false_iff
    (hread : Grammar.read (String.ofList text) = .ok grammar) :
    looksLikeAutomaton text = false ↔ LooksLikeGrammar text := by
  by_cases hkeyword : ∃ line ∈ contentLines text, BeginsWithKeyword line
  · obtain ⟨line, hline, hbegins⟩ := hkeyword
    rw [looksLikeAutomaton_of_keyword hline hbegins]
    exact iff_of_false (by decide) fun hlooks =>
      hlooks.no_keyword line hline hbegins
  have hplain : ∀ line ∈ contentLines text, ¬ BeginsWithKeyword line :=
    fun line hline hbegins => hkeyword ⟨line, hline, hbegins⟩
  by_cases hmark : '|' ∈ text ∨ "::=".toList <:+: text
  · exact iff_of_true (looksLikeAutomaton_of_mark hplain hmark)
      ⟨hplain, .inl hmark⟩
  rw [looksLikeAutomaton_of_arrows hplain hmark (arrowLines_ne_nil hread hmark),
    countP_arrowParts hread hmark (by decide : 1 ≠ 0),
    countP_arrowParts hread hmark (by decide : 2 ≠ 0),
    decide_eq_false_iff_not, Nat.not_lt]
  exact ⟨fun hle => ⟨hplain, .inr hle⟩, fun hlooks =>
    hlooks.arrows.resolve_left hmark⟩

section Headless

variable {text : String} (hheadless : IsHeadless text.toList)
  (hread : Grammar.read text = .ok grammar)
include hheadless hread

theorem load_of_read (name : String) :
    load text name =
      if looksLikeAutomaton text.toList then
        addDefinition ⟨∅, []⟩ ⟨name, trim text.toList⟩
      else ⟨⟨∅, (∅ : Registry Grammar).insert name grammar⟩, []⟩ := by
  have htrimmed : Grammar.read (String.ofList (trim text.toList)) =
      .ok grammar := by
    rw [read_trim, String.ofList_toList, hread]
  rw [← String.ofList_toList (s := text)] at hread
  obtain ⟨line, hline, -⟩ := exists_rule_of_read hread
  rw [load_headless hheadless (trim_ne_nil_of_mem_contentLines hline)]
  split
  · rfl
  · next hkind =>
      rw [← looksLikeAutomaton_trim, Bool.not_eq_true] at hkind
      simp only [addDefinition, hkind, Bool.false_eq_true, if_false, htrimmed]
      rfl

/-- A text of productions is loaded as the one grammar that is read from it,
and nothing is reported. -/
theorem load_grammar (hlooks : LooksLikeGrammar text.toList) (name : String) :
    (load text name).refusals = [] ∧
      (load text name).collection.automata = ∅ ∧
        (load text name).collection.grammars.entries = [(name, grammar)] := by
  have hkind : looksLikeAutomaton text.toList = false := by
    rw [← String.ofList_toList (s := text)] at hread
    exact (looksLikeAutomaton_eq_false_iff hread).mpr hlooks
  rw [load_of_read hheadless hread, if_neg (by simp [hkind])]
  exact ⟨rfl, rfl, rfl⟩

/-- No other text is loaded as a grammar. -/
theorem grammars_load_eq_empty_iff (name : String) :
    (load text name).collection.grammars = ∅ ↔
      ¬ LooksLikeGrammar text.toList := by
  have hguess := hread
  rw [← String.ofList_toList (s := text)] at hguess
  rw [← looksLikeAutomaton_eq_false_iff hguess, Bool.not_eq_false,
    load_of_read hheadless hread]
  split
  · next hkind =>
      refine iff_of_true ?_ hkind
      rw [grammars_addDefinition, grammarEntries, grammarOf?, if_pos]
      · rfl
      · rw [looksLikeAutomaton_trim, hkind]
  · next hkind =>
      refine iff_of_false (fun hempty => ?_) hkind
      exact List.cons_ne_nil _ _ (congrArg Registry.entries hempty)

end Headless

/-- Comments at the ends of lines, one of them with an arrow. -/
def commentedText : String :=
  "START: S # first\nS -> a # as in A -> a\nS -> bA\n\n# A -> B -> C\nA → b # end"

theorem commentedText_load :
    (load commentedText "variant").collection.grammars.names = ["variant"] ∧
      (load commentedText "variant").collection.automata = ∅ ∧
        (load commentedText "variant").refusals = [] := by
  have hheadless : IsHeadless commentedText.toList :=
    isHeadless_iff.mpr (by decide +kernel)
  have hlooks : LooksLikeGrammar commentedText.toList :=
    ⟨by decide +kernel, .inr (by decide +kernel)⟩
  have hsome : (Grammar.read commentedText).toOption.isSome = true := by
    decide +kernel
  obtain ⟨grammar, hgrammar⟩ := Option.isSome_iff_exists.mp hsome
  obtain ⟨hnone, hautomata, hentries⟩ := load_grammar hheadless
    (eq_ok_of_toOption hgrammar) hlooks "variant"
  refine ⟨?_, hautomata, hnone⟩
  rw [Registry.names, hentries]
  rfl

/-- A left-hand side of several symbols that begins like a keyword line. -/
def keywordRule : Rule where
  left := ["s", "t", "a", "r", "t", ":", "A"].map Token.plain
  alternatives := [[.plain "a"]]

theorem keywordRule_wellFormed :
    (description [keywordRule] none
      (gather [("start:A", [⟨"a", none⟩])])).WellFormed where
  length_terminal := by decide +kernel
  start_mem := by decide +kernel
  left_side := by
    have hnames : ∀ left ∈ (gather [("start:A", [⟨"a", none⟩])]).names,
        left = String.join ["s", "t", "a", "r", "t", ":", "A"] := by
      decide +kernel
    intro left hleft
    rw [hnames left hleft]
    exact isLeftSide_join (by decide +kernel) (by decide +kernel)
      (by decide) (by decide : "A" ∈ _) (by decide +kernel)
  terminal_mem := by decide +kernel
  target_mem := by decide +kernel

theorem keywordRule_load :
    IsHeadless "start: A -> a".toList ∧
      (∃ grammar, Grammar.read "start: A -> a" = .ok grammar) ∧
        (load "start: A -> a" "main").collection.grammars = ∅ ∧
          (load "start: A -> a" "main").collection.automata.names = ["main"] := by
  have hlines : ((lines "start: A -> a".toList).mapM
      Grammar.Document.readLine).toOption = some [.rule keywordRule] := by
    decide +kernel
  have hproductions : ([keywordRule].mapM readProductions).toOption =
      some [("start:A", [⟨"a", none⟩])] := by decide +kernel
  have hepsilon : epsilon ∉ declaredTerminals [keywordRule] := by
    decide +kernel
  refine ⟨isHeadless_iff.mpr (by decide +kernel),
    ⟨ofWellFormed _ keywordRule_wellFormed, ?_⟩, by decide +kernel,
    by decide +kernel⟩
  have hrules : [Line.rule keywordRule].filterMap Line.rule? = [keywordRule] :=
    rfl
  rw [Grammar.read, eq_ok_of_toOption hlines]
  simp only [bind, Except.bind, hrules, List.isEmpty_cons, if_neg hepsilon,
    eq_ok_of_toOption hproductions]
  exact congrArg (Except.mapError DocumentError.fault)
    (ofDescription_eq_ok keywordRule_wellFormed)

/-- With the arrow of its comment the line looks like a transition. -/
theorem commentArrow_load :
    IsHeadless "S -> a # a -> b".toList ∧
      (∃ grammar, Grammar.read "S -> a # a -> b" = .ok grammar) ∧
        (∀ line ∈ contentLines "S -> a # a -> b".toList,
          ¬ BeginsWithKeyword line) ∧
          (load "S -> a # a -> b" "main").collection = ∅ ∧
            (load "S -> a # a -> b" "main").refusals =
              [.automaton "main" .missingStart] := by
  have hsome : (Grammar.read "S -> a # a -> b").toOption.isSome = true := by
    decide +kernel
  obtain ⟨grammar, hgrammar⟩ := Option.isSome_iff_exists.mp hsome
  exact ⟨isHeadless_iff.mpr (by decide +kernel),
    ⟨grammar, eq_ok_of_toOption hgrammar⟩, by decide +kernel,
    by decide +kernel, by decide +kernel⟩

end RightLinear.Collection
