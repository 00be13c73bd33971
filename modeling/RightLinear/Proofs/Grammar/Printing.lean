import Mathlib.Data.List.Nodup
import Mathlib.Data.List.Perm.Subperm
import RightLinear.Proofs.Grammar.Derivation
import RightLinear.Proofs.Grammar.Gathering
import RightLinear.Proofs.Grammar.PrintedLine
import RightLinear.Proofs.Text.Lines
import RightLinear.Proofs.Traversal

/-! Printed productions read back.  Sorted by left-hand sides they are a
permutation of the rules, and every symbol that is read is declared by the kind
of token it is.  A start line makes up for a start symbol that no production
mentions. -/

namespace RightLinear

section Permutations

variable {α : Type} {first second : Registry α}

theorem Registry.get?_eq_of_perm (h : first.entries.Perm second.entries)
    (name : String) : first.get? name = second.get? name := by
  apply Option.ext
  intro value
  rw [get?_eq_some_iff, get?_eq_some_iff, h.mem_iff]

theorem Registry.sameEntries_iff_perm [BEq α] [LawfulBEq α] :
    first.sameEntries second = true ↔ first.entries.Perm second.entries := by
  simp only [sameEntries, Bool.and_eq_true, beq_iff_eq, List.all_eq_true,
    get?_eq_some_iff]
  constructor
  · intro h
    obtain ⟨hsize, hmem⟩ := h
    have hsubset : first.entries ⊆ second.entries := hmem
    have hdistinct := List.Nodup.of_map Prod.fst first.nodup
    exact (List.subperm_of_subset hdistinct hsubset).perm_of_length_le
      (Nat.le_of_eq hsize.symm)
  · intro h
    exact ⟨h.length_eq, fun entry hentry => h.mem_iff.mp hentry⟩

end Permutations

namespace Grammar

open Text Document Format

theorem sameRules_eq_true_iff {first second : Grammar} :
    first.sameRules second = true ↔
      first.nonterminals = second.nonterminals ∧
        first.terminals = second.terminals ∧ first.start = second.start ∧
          first.rules.entries.Perm second.rules.entries := by
  simp only [sameRules, Bool.and_eq_true, beq_iff_eq,
    Registry.sameEntries_iff_perm, and_assoc]

/-- Names without brackets and single characters as they are.  The printed
productions and the start line mention every symbol. -/
structure IsPrintable (grammar : Grammar) : Prop where
  nonterminal : ∀ symbol ∈ grammar.nonterminals, IsPlainName symbol
  terminal : ∀ symbol ∈ grammar.terminals, ∀ character ∈ symbol.toList,
    IsPlainCharacter character
  rightLinear : grammar.IsRightLinear
  productions_ne_nil : ∀ rule ∈ grammar.rules.entries, rule.2 ≠ []
  terminal_occurs : ∀ symbol ∈ grammar.terminals,
    ∃ rule ∈ grammar.ruleList, rule.2.terminal = symbol
  nonterminal_occurs : ∀ symbol ∈ grammar.nonterminals,
    symbol = grammar.start ∨ symbol ∈ grammar.rules.names ∨
      ∃ rule ∈ grammar.ruleList, rule.2.target = some symbol

/-- The production lines of the summary. -/
def printedProductions (grammar : Grammar) : String :=
  String.join (grammar.ruleLines.map fun line => "    " ++ line ++ "\n")

/-- The production lines with a start line before them. -/
def printedText (grammar : Grammar) : String :=
  "START: " ++ grammar.start ++ "\n" ++ grammar.printedProductions

/-- The rules in the order in which they are printed. -/
def rulesInOrder (grammar : Grammar) : List (String × List Production) :=
  grammar.rules.names.mergeSort.map fun left =>
    (left, grammar.productionsOf left)

variable {grammar : Grammar}

section Order

theorem productionsOf_of_mem {rule : String × List Production}
    (hrule : rule ∈ grammar.rules.entries) :
    grammar.productionsOf rule.1 = rule.2 := by
  rw [productionsOf, Registry.get?_eq_some_iff.mpr hrule, Option.getD_some]

theorem perm_rulesInOrder (grammar : Grammar) :
    grammar.rulesInOrder.Perm grammar.rules.entries := by
  have hentries : grammar.rules.names.map
      (fun left => (left, grammar.productionsOf left)) =
        grammar.rules.entries := by
    rw [Registry.names, List.map_map]
    refine (List.map_congr_left fun rule hrule => ?_).trans (List.map_id _)
    rw [Function.comp_apply, productionsOf_of_mem hrule]
    rfl
  rw [← hentries]
  exact (List.mergeSort_perm _ _).map _

theorem mem_rulesInOrder {rule : String × List Production} :
    rule ∈ grammar.rulesInOrder ↔ rule ∈ grammar.rules.entries :=
  (perm_rulesInOrder grammar).mem_iff

theorem perm_gather (grammar : Grammar) :
    (gather grammar.rulesInOrder).entries.Perm grammar.rules.entries := by
  have hperm := perm_rulesInOrder grammar
  have hnodup : (grammar.rulesInOrder.map Prod.fst).Nodup :=
    (hperm.map Prod.fst).nodup_iff.mpr grammar.rules.nodup
  rw [entries_gather hnodup]
  exact hperm

end Order

section Declared

variable {symbol : String} {token : Token}

/-- What is read from the production lines. -/
def tokenRules (grammar : Grammar) : List Document.Rule :=
  grammar.rulesInOrder.map fun rule => tokenRule rule.1 rule.2

/-- The symbols in the rules. -/
def Mentions (grammar : Grammar) (symbol : String) : Prop :=
  symbol ∈ grammar.rules.names ∨
    ∃ rule ∈ grammar.ruleList, symbol ∈ rule.2.symbols

theorem mem_tokens_tokenRules :
    token ∈ grammar.tokenRules.flatMap Rule.tokens ↔
      ∃ symbol, grammar.Mentions symbol ∧ .plain symbol = token := by
  simp only [tokenRules, List.mem_flatMap, List.mem_map, Mentions]
  constructor
  · intro h
    obtain ⟨_, ⟨⟨left, productions⟩, hrule, rfl⟩, htoken⟩ := h
    rw [mem_rulesInOrder] at hrule
    rw [tokens_tokenRule, List.mem_map] at htoken
    obtain ⟨symbol, hsymbol, rfl⟩ := htoken
    refine ⟨symbol, ?_, rfl⟩
    rcases List.mem_cons.mp hsymbol with rfl | hsymbol
    · exact .inl (List.mem_map_of_mem hrule)
    · obtain ⟨production, hproduction, hsymbol⟩ := List.mem_flatMap.mp hsymbol
      refine .inr ⟨(left, production), ?_, hsymbol⟩
      rw [mem_ruleList, mem_productionsOf]
      exact ⟨productions, hrule, hproduction⟩
  · intro h
    obtain ⟨symbol, hsymbol, rfl⟩ := h
    rcases hsymbol with hleft | ⟨⟨left, production⟩, hrule, hsymbol⟩
    · obtain ⟨rule, hrule, rfl⟩ := List.mem_map.mp hleft
      refine ⟨_, ⟨rule, mem_rulesInOrder.mpr hrule, rfl⟩, ?_⟩
      rw [tokens_tokenRule]
      exact List.mem_cons_self
    · rw [mem_ruleList, mem_productionsOf] at hrule
      obtain ⟨productions, hrule, hproduction⟩ := hrule
      refine ⟨_, ⟨_, mem_rulesInOrder.mpr hrule, rfl⟩, ?_⟩
      rw [tokens_tokenRule]
      exact List.mem_map_of_mem (List.mem_cons_of_mem _
        (List.mem_flatMap.mpr ⟨production, hproduction, hsymbol⟩))

/-- Every symbol is read as a token of its own kind. -/
theorem IsPrintable.kind_of_mentions (h : grammar.IsPrintable)
    (hsymbol : grammar.Mentions symbol) :
    symbol ∈ grammar.nonterminals ∧
        (Token.plain symbol).isNonterminal = true ∨
      symbol ∈ grammar.terminals ∧
        (Token.plain symbol).isNonterminal = false := by
  have hnonterminal : symbol ∈ grammar.nonterminals →
      symbol ∈ grammar.nonterminals ∧
        (Token.plain symbol).isNonterminal = true :=
    fun hmem => ⟨hmem, (h.nonterminal symbol hmem).isNonterminal⟩
  rcases hsymbol with hleft | ⟨⟨left, production⟩, hrule, hsymbol⟩
  · exact .inl (hnonterminal (h.rightLinear symbol hleft))
  · have hproduction := mem_ruleList.mp hrule
    rcases List.mem_cons.mp hsymbol with rfl | htarget
    · have hterminal := terminal_mem_of_mem_productionsOf hproduction
      exact .inr
        ⟨hterminal, isNonterminal_of_plain (h.terminal _ hterminal)⟩
    · exact .inl (hnonterminal (target_mem_of_mem_productionsOf hproduction
        (Option.mem_toList.mp htarget)))

theorem IsPrintable.mem_declaredTerminals (h : grammar.IsPrintable) :
    symbol ∈ declaredTerminals grammar.tokenRules ↔
      symbol ∈ grammar.terminals := by
  simp only [declaredTerminals, List.mem_map, List.mem_filter,
    mem_tokens_tokenRules, Bool.not_eq_true']
  constructor
  · intro hdeclared
    obtain ⟨_, ⟨⟨symbol, hsymbol, rfl⟩, hkind⟩, rfl⟩ := hdeclared
    rcases h.kind_of_mentions hsymbol with ⟨_, hother⟩ | ⟨hterminal, _⟩
    · rw [hother] at hkind
      contradiction
    · exact hterminal
  · intro hterminal
    obtain ⟨rule, hrule, rfl⟩ := h.terminal_occurs symbol hterminal
    exact ⟨_, ⟨⟨_, .inr ⟨rule, hrule, List.mem_cons_self⟩, rfl⟩,
      isNonterminal_of_plain (h.terminal _ hterminal)⟩, rfl⟩

theorem IsPrintable.mem_declaredNonterminals (h : grammar.IsPrintable) :
    symbol ∈ grammar.start :: declaredNonterminals grammar.tokenRules ↔
      symbol ∈ grammar.nonterminals := by
  simp only [List.mem_cons, declaredNonterminals, List.mem_map,
    List.mem_filter, mem_tokens_tokenRules]
  constructor
  · intro hdeclared
    rcases hdeclared with rfl | ⟨_, ⟨⟨symbol, hsymbol, rfl⟩, hkind⟩, rfl⟩
    · exact grammar.start_mem
    · rcases h.kind_of_mentions hsymbol with ⟨hnonterminal, _⟩ | ⟨_, hother⟩
      · exact hnonterminal
      · rw [hother] at hkind
        contradiction
  · intro hnonterminal
    have hkind := (h.nonterminal symbol hnonterminal).isNonterminal
    -- Only the start symbol may be missing from the rules.
    rcases h.nonterminal_occurs symbol hnonterminal with
      hstart | hleft | ⟨rule, hrule, htarget⟩
    · exact .inl hstart
    · exact .inr ⟨_, ⟨⟨symbol, .inl hleft, rfl⟩, hkind⟩, rfl⟩
    · have hsymbol : symbol ∈ rule.2.symbols :=
        List.mem_cons_of_mem _ (Option.mem_toList.mpr htarget)
      exact .inr ⟨_, ⟨⟨symbol, .inr ⟨rule, hrule, hsymbol⟩, rfl⟩, hkind⟩, rfl⟩

end Declared

section Reading

/-- The lines of the text that is read, without the empty one at the end. -/
def printedLines (grammar : Grammar) : List (List Char) :=
  ("START: " ++ grammar.start).toList ::
    grammar.rulesInOrder.map fun rule =>
      "    ".toList ++ (printedLine rule.1 rule.2).toList

theorem IsPrintable.isPlainRule (h : grammar.IsPrintable) :
    ∀ rule ∈ grammar.rulesInOrder, IsPlainRule rule.1 rule.2 := by
  intro rule hmem
  have hrule := mem_rulesInOrder.mp hmem
  refine ⟨?_, h.productions_ne_nil rule hrule, ?_⟩
  · exact h.nonterminal _ (h.rightLinear _ (List.mem_map_of_mem hrule))
  · intro production hproduction
    have hterminal := grammar.terminal_mem rule hrule production hproduction
    refine printedText_of_plain (grammar.length_terminal _ hterminal)
      (h.terminal _ hterminal) ?_
    intro target htarget
    exact h.nonterminal target
      (grammar.target_mem rule hrule production hproduction target htarget)

theorem IsPrintable.ruleLines_eq (h : grammar.IsPrintable) :
    grammar.ruleLines =
      grammar.rulesInOrder.map fun rule => printedLine rule.1 rule.2 := by
  have hall : grammar.rules.names.mergeSort.filter
      (fun left => !(grammar.productionsOf left).isEmpty) =
        grammar.rules.names.mergeSort := by
    rw [List.filter_eq_self]
    intro left hleft
    have hrule : (left, grammar.productionsOf left) ∈ grammar.rulesInOrder :=
      List.mem_map_of_mem hleft
    simpa using (h.isPlainRule _ hrule).ne_nil
  rw [ruleLines, hall, rulesInOrder, List.map_map]
  rfl

theorem IsPrintable.toList_printedText (h : grammar.IsPrintable) :
    grammar.printedText.toList =
      grammar.printedLines.flatMap (· ++ ['\n']) := by
  rw [printedText, printedProductions, h.ruleLines_eq, printedLines,
    List.flatMap_cons, List.flatMap_map]
  simp only [String.toList_append, String.toList_join, List.map_map,
    List.flatMap_map, Function.comp_apply, List.append_assoc]
  rfl

theorem IsPrintable.not_mem_newline (h : grammar.IsPrintable) :
    ∀ line ∈ grammar.printedLines, '\n' ∉ line := by
  refine List.forall_mem_cons.mpr ⟨?_, List.forall_mem_map.mpr ?_⟩
  · have hstart := (h.nonterminal _ grammar.start_mem).not_mem_newline
    simp [hstart]
  · intro rule hrule
    have hline := (h.isPlainRule rule hrule).not_mem_newline
    simp [hline]

theorem IsPrintable.mapM_readLine (h : grammar.IsPrintable) :
    (lines grammar.printedText.toList).mapM readLine =
      .ok (.start grammar.start ::
        (grammar.tokenRules.map .rule ++ [.blank])) := by
  have hstart := (h.nonterminal _ grammar.start_mem).readLine_start
  have hlead : IsGap "    ".toList := isGap_spaces 4
  have hrules : (grammar.rulesInOrder.map fun rule =>
      "    ".toList ++ (printedLine rule.1 rule.2).toList).mapM readLine =
        .ok (grammar.tokenRules.map .rule) := by
    rw [List.mapM_map, tokenRules, List.map_map]
    exact mapM_eq_ok fun rule hrule => (h.isPlainRule rule hrule).readLine hlead
  rw [h.toList_printedText, lines_terminated h.not_mem_newline, printedLines,
    List.cons_append, List.mapM_cons, hstart, List.mapM_append, hrules]
  rfl

/-- What is read describes the grammar by its own symbols and rules. -/
theorem IsPrintable.wellFormed (h : grammar.IsPrintable) :
    (description grammar.tokenRules (some grammar.start)
      (gather grammar.rulesInOrder)).WellFormed where
  length_terminal := by
    intro terminal hterminal
    exact grammar.length_terminal terminal (h.mem_declaredTerminals.mp hterminal)
  start_mem := List.mem_cons_self
  left_side := by
    intro left hleft
    have hnonterminal := h.rightLinear left
      (((perm_gather grammar).map Prod.fst).mem_iff.mp hleft)
    exact isLeftSide_of_mem
      (SortedSet.mem_ofList.mpr (h.mem_declaredNonterminals.mpr hnonterminal))
  terminal_mem := by
    intro rule hrule production hproduction
    have hentry := (perm_gather grammar).mem_iff.mp hrule
    exact h.mem_declaredTerminals.mpr
      (grammar.terminal_mem rule hentry production hproduction)
  target_mem := by
    intro rule hrule production hproduction target htarget
    have hentry := (perm_gather grammar).mem_iff.mp hrule
    exact h.mem_declaredNonterminals.mpr
      (grammar.target_mem rule hentry production hproduction target htarget)

theorem IsPrintable.epsilon_not_mem (h : grammar.IsPrintable) :
    epsilon ∉ declaredTerminals grammar.tokenRules := by
  intro hepsilon
  have hplain := h.terminal _ (h.mem_declaredTerminals.mp hepsilon) 'ε'
    (by decide)
  exact hplain.2.2 (by decide)

theorem isEmpty_tokenRules (grammar : Grammar) :
    grammar.tokenRules.isEmpty = grammar.rules.names.isEmpty := by
  rw [tokenRules, List.isEmpty_map, rulesInOrder, List.isEmpty_map]
  exact (List.mergeSort_perm _ _).isEmpty_eq

section Lines

variable {start : String} {rules : List Document.Rule}

theorem filterMap_rule?_printed :
    (Line.start start :: (rules.map Line.rule ++ [.blank])).filterMap
      Line.rule? = rules := by
  have hall : Line.rule? ∘ Line.rule = some := rfl
  rw [List.filterMap_cons_none rfl, List.filterMap_append, List.filterMap_map,
    hall, List.filterMap_some]
  exact List.append_nil rules

theorem givenStart?_printed (hne : start ≠ "") :
    givenStart? (Line.start start :: (rules.map Line.rule ++ [.blank])) =
      some start := by
  have hnone : Line.start? ∘ Line.rule = fun _ => none := rfl
  have hfirst : Line.start? (.start start) = some start := rfl
  have hlater : (rules.map Line.rule ++ [Line.blank]).filterMap Line.start? =
      [] := by
    rw [List.filterMap_append, List.filterMap_map, hnone, List.filterMap_none]
    rfl
  rw [givenStart?, List.filterMap_cons_some hfirst, hlater]
  simp [Option.filter, hne]

end Lines

theorem IsPrintable.read_eq (h : grammar.IsPrintable)
    (hne : grammar.rules.names ≠ []) :
    read grammar.printedText = .ok (ofWellFormed _ h.wellFormed) := by
  have hstart : grammar.start ≠ "" := by
    intro hempty
    have hplain := (h.nonterminal _ grammar.start_mem).1
    rw [hempty] at hplain
    contradiction
  have hproductions : grammar.tokenRules.mapM Document.readProductions =
      .ok grammar.rulesInOrder := by
    rw [tokenRules, List.mapM_map, mapM_eq_ok_iff, List.forall₂_same]
    exact fun rule hrule => (h.isPlainRule rule hrule).readProductions
  have hnonempty : grammar.tokenRules.isEmpty = false := by
    rw [isEmpty_tokenRules]
    exact List.isEmpty_eq_false_iff.mpr hne
  rw [read, h.mapM_readLine]
  simp only [bind, Except.bind, filterMap_rule?_printed, hnonempty,
    if_neg h.epsilon_not_mem, hproductions, givenStart?_printed hstart]
  rw [if_neg Bool.false_ne_true]
  exact congrArg (Except.mapError DocumentError.fault)
    (ofDescription_eq_ok h.wellFormed)

/-- Without rules nothing is printed that could be read. -/
theorem IsPrintable.read_eq_error (h : grammar.IsPrintable)
    (hnone : grammar.rules.names = []) :
    read grammar.printedText = .error .noProductions := by
  have hempty : grammar.tokenRules.isEmpty = true := by
    rw [isEmpty_tokenRules, hnone]
    rfl
  rw [read, h.mapM_readLine]
  simp only [bind, Except.bind, filterMap_rule?_printed, hempty]
  rfl

end Reading

/-- The printed productions of a grammar, read after a start line, give the
grammar again: the same symbols and start, and under every left-hand side the
same productions in their order.  Only a grammar without rules is refused. -/
theorem printed_productions_read_back (grammar : Grammar)
    (h : grammar.IsPrintable) :
    (∃ heading, grammar.summary =
      heading ++ "  Productions:\n" ++ grammar.printedProductions) ∧
    (grammar.rules.names = [] →
      read grammar.printedText = .error .noProductions) ∧
    (grammar.rules.names ≠ [] →
      ∃ again, read grammar.printedText = .ok again ∧
        again.sameRules grammar = true ∧
          again.nonterminals = grammar.nonterminals ∧
            again.terminals = grammar.terminals ∧
              again.start = grammar.start ∧
                ∀ left, again.productionsOf left =
                  grammar.productionsOf left) := by
  refine ⟨⟨_, rfl⟩, h.read_eq_error, fun hne => ?_⟩
  have hnonterminals : (ofWellFormed _ h.wellFormed).nonterminals =
      grammar.nonterminals :=
    SortedSet.ext fun symbol =>
      SortedSet.mem_ofList.trans h.mem_declaredNonterminals
  have hterminals : (ofWellFormed _ h.wellFormed).terminals =
      grammar.terminals :=
    SortedSet.ext fun symbol =>
      SortedSet.mem_ofList.trans h.mem_declaredTerminals
  have hrules : (ofWellFormed _ h.wellFormed).rules.entries.Perm
      grammar.rules.entries := perm_gather grammar
  refine ⟨_, h.read_eq hne, ?_, hnonterminals, hterminals, rfl, ?_⟩
  · exact sameRules_eq_true_iff.mpr ⟨hnonterminals, hterminals, rfl, hrules⟩
  · intro left
    rw [productionsOf, Registry.get?_eq_of_perm hrules]
    rfl

/-- Brackets, signs of arrows, a digit and a prime as terminals, each beside a
name or a bar, as in `S -> <A1 | > | -B'`. -/
def signGrammar : Grammar where
  nonterminals := SortedSet.ofList ["S", "B\x27", "A1"]
  terminals := SortedSet.ofList ["<", ">", "-", ":", "=", "1", "\x27"]
  rules := Registry.ofList
    [("S", [⟨"<", some "A1"⟩, ⟨">", none⟩, ⟨"-", some "B\x27"⟩]),
      ("B\x27", [⟨":", none⟩, ⟨":", some "S"⟩, ⟨"=", none⟩]),
      ("A1", [⟨"1", some "S"⟩, ⟨"\x27", some "A1"⟩, ⟨"-", none⟩])]
  start := "S"
  length_terminal := by decide +kernel
  start_mem := by decide +kernel
  left_side := by
    intro left hleft
    apply isLeftSide_of_mem
    revert left
    decide +kernel
  terminal_mem := by decide +kernel
  target_mem := by decide +kernel

theorem signGrammar_isPrintable : signGrammar.IsPrintable where
  nonterminal := by decide +kernel
  terminal := by
    have hall : signGrammar.terminals.toList.all
        (·.toList.all (decide <| IsPlainCharacter ·)) = true := by
      decide +kernel
    simpa only [List.all_eq_true, decide_eq_true_eq, SortedSet.mem_toList]
      using hall
  rightLinear := by decide +kernel
  productions_ne_nil := by decide +kernel
  terminal_occurs := by decide +kernel
  nonterminal_occurs := by decide +kernel

theorem signGrammar_read_back :
    signGrammar.IsPrintable ∧
      ∃ again, read signGrammar.printedText = .ok again ∧
        again.sameRules signGrammar = true := by
  obtain ⟨-, -, hread⟩ :=
    printed_productions_read_back signGrammar signGrammar_isPrintable
  obtain ⟨again, hagain, hsame, -⟩ := hread (by decide +kernel)
  exact ⟨signGrammar_isPrintable, again, hagain, hsame⟩

/-- A start symbol and nothing else. -/
def bareGrammar : Grammar where
  nonterminals := SortedSet.singleton "S"
  terminals := ∅
  rules := ∅
  start := "S"
  length_terminal := by decide +kernel
  start_mem := by decide +kernel
  left_side := fun _ hleft => nomatch hleft
  terminal_mem := fun _ hrule => nomatch hrule
  target_mem := fun _ hrule => nomatch hrule

theorem bareGrammar_isPrintable : bareGrammar.IsPrintable where
  nonterminal := by decide +kernel
  terminal := by decide +kernel
  rightLinear := by decide +kernel
  productions_ne_nil := by decide +kernel
  terminal_occurs := by decide +kernel
  nonterminal_occurs := by decide +kernel

theorem printedText_bareGrammar : bareGrammar.printedText = "START: S\n" := by
  have hnames : bareGrammar.rules.names = [] := rfl
  rw [printedText, printedProductions, ruleLines, hnames, List.mergeSort_nil]
  rfl

theorem bareGrammar_not_read_back :
    bareGrammar.IsPrintable ∧ bareGrammar.printedText = "START: S\n" ∧
      ¬ ∃ again, read bareGrammar.printedText = .ok again := by
  refine ⟨bareGrammar_isPrintable, printedText_bareGrammar, fun hread => ?_⟩
  obtain ⟨again, hagain⟩ := hread
  rw [bareGrammar_isPrintable.read_eq_error rfl] at hagain
  contradiction

end Grammar

end RightLinear
