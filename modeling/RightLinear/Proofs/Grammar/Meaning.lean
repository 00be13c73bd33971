import RightLinear.Proofs.Grammar.Gathering
import RightLinear.Proofs.Grammar.Lines
import RightLinear.Proofs.Grammar.Reading
import RightLinear.Proofs.Traversal

/-! The grammar that written rules mean.  What is declared, gathered and chosen
as the start symbol is read off the rules one by one, and spreading the
alternatives of a rule over several rules changes none of it. -/

namespace RightLinear.Grammar.Format

open Text Document

section Declared

variable {rules : List Rule}

theorem tokens_document (rule : Rule) :
    rule.document.tokens = rule.symbols.map Symbol.token := by
  rw [Document.Rule.tokens, Rule.document, Rule.symbols, List.map_append,
    List.map_flatMap, List.flatMap_def]

theorem leftText_document (rule : Rule) :
    rule.document.leftText = rule.leftText := by
  rw [Document.Rule.leftText, Rule.document, Rule.leftText, List.map_map]
  exact congrArg String.join
    (List.map_congr_left fun symbol _ => symbol.symbol_token)

theorem mem_tokens_iff {token : Token} :
    token ∈ (rules.map Rule.document).flatMap Document.Rule.tokens ↔
      ∃ symbol, Occurs rules symbol ∧ symbol.token = token := by
  rw [List.flatMap_map]
  simp only [List.mem_flatMap, tokens_document, List.mem_map, Occurs]
  constructor
  · rintro ⟨rule, hrule, symbol, hsymbol, htoken⟩
    exact ⟨symbol, ⟨rule, hrule, hsymbol⟩, htoken⟩
  · rintro ⟨symbol, ⟨rule, hrule, hsymbol⟩, htoken⟩
    exact ⟨rule, hrule, symbol, hsymbol, htoken⟩

theorem mem_declaredNonterminals {name : String} :
    name ∈ declaredNonterminals (rules.map Rule.document) ↔
      HasName rules name := by
  simp only [declaredNonterminals, List.mem_map, List.mem_filter,
    mem_tokens_iff]
  constructor
  · rintro ⟨_, ⟨⟨symbol, hsymbol, rfl⟩, hnonterminal⟩, rfl⟩
    cases symbol with
    | terminal value =>
        rw [Symbol.isNonterminal_terminal] at hnonterminal
        contradiction
    | name value =>
        exact ⟨value, hsymbol, (Symbol.symbol_token (.name value)).symm⟩
  · rintro ⟨value, hvalue, rfl⟩
    exact ⟨_, ⟨⟨_, hvalue, rfl⟩, Symbol.isNonterminal_name value⟩,
      Symbol.symbol_token _⟩

theorem mem_declaredTerminals {name : String} :
    name ∈ declaredTerminals (rules.map Rule.document) ↔
      HasTerminal rules name := by
  simp only [declaredTerminals, List.mem_map, List.mem_filter, mem_tokens_iff,
    Bool.not_eq_true']
  constructor
  · rintro ⟨_, ⟨⟨symbol, hsymbol, rfl⟩, hterminal⟩, rfl⟩
    cases symbol with
    | terminal value =>
        exact ⟨value, hsymbol, (Symbol.symbol_token (.terminal value)).symm⟩
    | name value =>
        rw [Symbol.isNonterminal_name] at hterminal
        contradiction
  · rintro ⟨value, hvalue, rfl⟩
    exact ⟨_, ⟨⟨_, hvalue, rfl⟩, Symbol.isNonterminal_terminal value⟩,
      Symbol.symbol_token _⟩

theorem epsilon_not_mem_declaredTerminals :
    epsilon ∉ declaredTerminals (rules.map Rule.document) := by
  intro hepsilon
  obtain ⟨value, _, hvalue⟩ := mem_declaredTerminals.mp hepsilon
  have hcharacter : value.character = 'ε' := by
    have hlist := congrArg String.toList hvalue
    simpa [Terminal.symbol, epsilon] using hlist
  exact value.allowed (by simp [hcharacter])

theorem readProduction_document (left : String) (alternative : Alternative) :
    readProduction left (alternative.symbols.map Symbol.token) =
      .ok alternative.production := by
  obtain ⟨terminal, target⟩ := alternative
  cases target with
  | none =>
      rw [Alternative.symbols, Option.toList_none, List.map_nil,
        List.map_singleton, readProduction]
      simp only [Symbol.isNonterminal_terminal, Symbol.symbol_token]
      rfl
  | some target =>
      rw [Alternative.symbols, Option.toList_some, List.map_singleton,
        List.map_cons, List.map_singleton, readProduction]
      simp only [Symbol.isNonterminal_terminal, Symbol.isNonterminal_name,
        Symbol.symbol_token]
      rfl

theorem readProductions_document (rule : Rule) :
    readProductions rule.document = .ok (rule.leftText, rule.productions) := by
  have hproductions : rule.document.alternatives.mapM
      (readProduction rule.leftText) = .ok rule.productions := by
    rw [Rule.document, List.mapM_map]
    exact mapM_eq_ok fun alternative _ =>
      readProduction_document rule.leftText alternative
  rw [readProductions, leftText_document, hproductions]
  rfl

end Declared

section Wellformedness

variable {rules : List Rule} {starts : List Name} {start : Option String}

/-- What is gathered from the rules under their left-hand sides. -/
def gathered (rules : List Rule) : Registry (List Production) :=
  gather (rules.map fun rule => (rule.leftText, rule.productions))

theorem names_gathered (rules : List Rule) :
    (gathered rules).names = (rules.map Rule.leftText).eraseDups := by
  rw [gathered, names_gather, List.map_map]
  rfl

theorem get?_gathered (rules : List Rule) (left : String) :
    ((gathered rules).get? left).getD [] =
      (rules.filter (·.leftText = left)).flatMap Rule.productions := by
  rw [gathered, get?_gather, List.filter_map, List.flatMap_map]
  rfl

theorem mem_gathered {entry : String × List Production}
    (hentry : entry ∈ (gathered rules).entries) {production : Production}
    (hproduction : production ∈ entry.2) :
    ∃ rule ∈ rules, ∃ alternative ∈ rule.alternatives,
      alternative.production = production := by
  obtain ⟨pair, hpair, _, hin⟩ := mem_gather hentry hproduction
  obtain ⟨rule, hrule, rfl⟩ := List.mem_map.mp hpair
  obtain ⟨alternative, halternative, heq⟩ := List.mem_map.mp hin
  exact ⟨rule, hrule, alternative, halternative, heq⟩

theorem Name.symbol_ne_empty (name : Name) : name.symbol ≠ "" := by
  intro hempty
  have hlist := congrArg String.toList hempty
  rw [Name.symbol, String.toList_ofList] at hlist
  exact name.text_ne_nil hlist

theorem Symbol.text_ne_empty (symbol : Symbol) : symbol.text ≠ "" := by
  cases symbol with
  | terminal value =>
      intro hempty
      have hlist := congrArg String.toList hempty
      rw [Symbol.text, Terminal.symbol, String.toList_singleton] at hlist
      contradiction
  | name value => exact value.symbol_ne_empty

theorem length_declaredTerminal :
    ∀ terminal ∈ declaredTerminals (rules.map Rule.document),
      terminal.length = 1 := by
  intro terminal hterminal
  obtain ⟨value, _, rfl⟩ := mem_declaredTerminals.mp hterminal
  exact String.length_singleton

theorem isLeftSide_leftText {nonterminals terminals : List String}
    (hnonterminals : ∀ name, HasName rules name → name ∈ nonterminals)
    (hterminals : ∀ name, name ∈ terminals ↔ HasTerminal rules name)
    {rule : Rule} (hrule : rule ∈ rules) :
    IsLeftSide (SortedSet.ofList nonterminals) (SortedSet.ofList terminals)
      rule.leftText := by
  obtain ⟨name, hname⟩ := rule.exists_name
  have hleft : ∀ {symbol}, symbol ∈ rule.left → Occurs rules symbol :=
    fun h => ⟨rule, hrule, List.mem_append_left _ h⟩
  have hlength : ∀ terminal ∈ SortedSet.ofList terminals,
      terminal.length = 1 := by
    intro terminal hterminal
    obtain ⟨value, _, rfl⟩ :=
      (hterminals terminal).mp (SortedSet.mem_ofList.mp hterminal)
    exact String.length_singleton
  have hdeclared : ∀ text ∈ rule.left.map Symbol.text,
      text ∈ SortedSet.ofList nonterminals ∨
        text ∈ SortedSet.ofList terminals := by
    rw [List.forall_mem_map]
    intro symbol hsymbol
    rw [SortedSet.mem_ofList, SortedSet.mem_ofList]
    cases symbol with
    | terminal value =>
        exact .inr ((hterminals _).mpr ⟨value, hleft hsymbol, rfl⟩)
    | name value =>
        exact .inl (hnonterminals _ ⟨value, hleft hsymbol, rfl⟩)
  have hnonempty : ∀ text ∈ rule.left.map Symbol.text, text ≠ "" := by
    rw [List.forall_mem_map]
    exact fun symbol _ => symbol.text_ne_empty
  refine isLeftSide_join hlength hdeclared hnonempty
    (List.mem_map_of_mem hname) ?_
  exact SortedSet.mem_ofList.mpr
    (hnonterminals _ ⟨name, hleft hname, rfl⟩)

theorem occurs_of_alternative {rule : Rule} (hrule : rule ∈ rules)
    {alternative : Alternative} (halternative : alternative ∈ rule.alternatives)
    {symbol : Symbol} (hsymbol : symbol ∈ alternative.symbols) :
    Occurs rules symbol :=
  ⟨rule, hrule, List.mem_append_right _
    (List.mem_flatMap.mpr ⟨alternative, halternative, hsymbol⟩)⟩

theorem description_wellFormed (hstart : start.getD
      (usualStart (declaredNonterminals (rules.map Rule.document))
        (gathered rules).names) ∈ start.toList ++
          declaredNonterminals (rules.map Rule.document)) :
    (description (rules.map Rule.document) start (gathered rules)).WellFormed where
  length_terminal := length_declaredTerminal
  start_mem := hstart
  left_side := by
    intro left hleft
    rw [description, names_gathered, List.mem_eraseDups] at hleft
    obtain ⟨rule, hrule, rfl⟩ := List.mem_map.mp hleft
    exact isLeftSide_leftText
      (fun name hname => List.mem_append_right _
        (mem_declaredNonterminals.mpr hname))
      (fun name => mem_declaredTerminals) hrule
  terminal_mem := by
    intro entry hentry production hproduction
    obtain ⟨rule, hrule, alternative, halternative, rfl⟩ :=
      mem_gathered hentry hproduction
    exact mem_declaredTerminals.mpr ⟨alternative.terminal,
      occurs_of_alternative hrule halternative List.mem_cons_self, rfl⟩
  target_mem := by
    intro entry hentry production hproduction target htarget
    obtain ⟨rule, hrule, alternative, halternative, rfl⟩ :=
      mem_gathered hentry hproduction
    obtain ⟨value, hvalue, rfl⟩ := Option.map_eq_some_iff.mp htarget
    have hsymbol : .name value ∈ alternative.symbols :=
      List.mem_cons_of_mem _
        (List.mem_map_of_mem (Option.mem_toList.mpr hvalue))
    exact List.mem_append_right _ (mem_declaredNonterminals.mpr
      ⟨value, occurs_of_alternative hrule halternative hsymbol, rfl⟩)

theorem declaredNonterminals_ne_nil (hne : rules ≠ []) :
    declaredNonterminals (rules.map Rule.document) ≠ [] := by
  obtain ⟨rule, rules, rfl⟩ := List.exists_cons_of_ne_nil hne
  obtain ⟨name, hname⟩ := rule.exists_name
  exact List.ne_nil_of_mem (mem_declaredNonterminals.mpr
    ⟨name, ⟨rule, List.mem_cons_self, List.mem_append_left _ hname⟩, rfl⟩)

theorem start_mem (hne : rules ≠ []) (start : Option String) :
    start.getD (usualStart (declaredNonterminals (rules.map Rule.document))
      (gathered rules).names) ∈
        start.toList ++ declaredNonterminals (rules.map Rule.document) := by
  cases start with
  | none => exact usualStart_mem (declaredNonterminals_ne_nil hne) _
  | some symbol => exact List.mem_cons_self

/-- The grammar of the rules as they were read. -/
def grammarOf (rules : List Rule) (hne : rules ≠ []) (starts : List Name) :
    Grammar :=
  ofWellFormed (description (rules.map Rule.document)
    (starts.getLast?.map Name.symbol) (gathered rules))
      (description_wellFormed (start_mem hne _))

theorem start_grammarOf (hne : rules ≠ []) (starts : List Name) :
    (grammarOf rules hne starts).start =
      (starts.getLast?.map Name.symbol).getD
        (usualStart (declaredNonterminals (rules.map Rule.document))
          (gathered rules).names) :=
  rfl

theorem mem_nonterminals_grammarOf {hne : rules ≠ []} {symbol : String} :
    symbol ∈ (grammarOf rules hne starts).nonterminals ↔
      HasName rules symbol ∨ ∃ name ∈ starts.getLast?, name.symbol = symbol := by
  refine SortedSet.mem_ofList.trans ?_
  rw [description, List.mem_append, mem_declaredNonterminals,
    Option.mem_toList, Option.map_eq_some_iff, or_comm]
  rfl

theorem startsAsUsual_grammarOf (hne : rules ≠ []) :
    StartsAsUsual (grammarOf rules hne []) where
  letter := fun hletter => if_pos (SortedSet.mem_ofList.mp hletter)
  first := by
    intro hletter left hleft
    have hnot := fun hin => hletter (SortedSet.mem_ofList.mpr hin)
    have hfind : (gathered rules).names.find? (fun left => decide
        (left ∈ declaredNonterminals (rules.map Rule.document))) =
          some left := by
      rw [← hleft]
      apply congrArg (List.find? · (gathered rules).names)
      funext other
      exact decide_eq_decide.mpr SortedSet.mem_ofList.symm
    exact usualStart_first hnot hfind
  least := by
    intro hletter hnone other hother
    exact usualStart_least
      (fun hin => hletter (SortedSet.mem_ofList.mpr hin))
      (fun left hleft hin => hnone left hleft (SortedSet.mem_ofList.mpr hin))
      (SortedSet.mem_ofList.mp hother)

theorem describes_grammarOf (hne : rules ≠ []) (starts : List Name) :
    Describes rules starts (grammarOf rules hne starts) where
  mem_nonterminals := fun _ => mem_nonterminals_grammarOf
  mem_terminals := fun _ => SortedSet.mem_ofList.trans mem_declaredTerminals
  names := names_gathered rules
  productionsOf := get?_gathered rules
  start_given := by
    intro name hname
    rw [start_grammarOf, Option.mem_def.mp hname]
    rfl
  start_usual := by
    rintro rfl
    exact startsAsUsual_grammarOf hne

end Wellformedness

section Spreading

variable {rules written : List Rule} {starts : List Name}

theorem Spread.ne_nil (h : Spread rules written) (hne : rules ≠ []) :
    written ≠ [] := by
  cases h with
  | nil => exact hne
  | whole hlater => exact List.cons_ne_nil _ _
  | part hleft hlater => exact List.cons_ne_nil _ _

theorem leftText_eq {first second : Rule} (h : first.left = second.left) :
    first.leftText = second.leftText := by
  rw [Rule.leftText, h]
  rfl

theorem mem_symbols_extended {rule : Rule} {more : List Alternative}
    {symbol : Symbol} :
    symbol ∈ (rule.extended more).symbols ↔
      symbol ∈ rule.symbols ∨ symbol ∈ more.flatMap Alternative.symbols := by
  simp only [Rule.symbols, Rule.extended, List.flatMap_append, List.mem_append,
    or_assoc]

theorem productions_extended (rule : Rule) (more : List Alternative) :
    (rule.extended more).productions =
      rule.productions ++ more.map Alternative.production :=
  List.map_append

theorem Spread.endsPlain (h : Spread rules written) :
    (∀ rule ∈ written, rule.EndsPlain) ↔ ∀ rule ∈ rules, rule.EndsPlain := by
  induction h with
  | nil => exact Iff.rfl
  | whole hlater ih => rw [List.forall_mem_cons, ih, List.forall_mem_cons]
  | @part first later rules written hleft hlater ih =>
      have hlater : later.EndsPlain ↔ first.EndsPlain := by
        rw [Rule.EndsPlain, Rule.EndsPlain, hleft]
      have hfirst : (first.extended later.alternatives).EndsPlain ↔
          first.EndsPlain := Iff.rfl
      rw [List.forall_mem_cons, ih, List.forall_mem_cons, List.forall_mem_cons,
        hlater, hfirst, and_self_left]

theorem Spread.occurs (h : Spread rules written) {symbol : Symbol} :
    Occurs written symbol ↔ Occurs rules symbol := by
  rw [Occurs, Occurs]
  induction h with
  | nil => exact Iff.rfl
  | whole hlater ih => simp only [List.exists_mem_cons_iff, ih]
  | @part first later rules written hleft hlater ih =>
      have hlaterSymbols : symbol ∈ later.symbols ↔ symbol ∈ first.left ∨
          symbol ∈ later.alternatives.flatMap Alternative.symbols := by
        rw [Rule.symbols, hleft, List.mem_append]
      have hfirst : symbol ∈ first.left → symbol ∈ first.symbols :=
        List.mem_append_left _
      rw [List.exists_mem_cons_iff, ih, List.exists_mem_cons_iff,
        List.exists_mem_cons_iff, mem_symbols_extended, hlaterSymbols]
      grind

theorem Spread.names (h : Spread rules written) (earlier : List String) :
    (earlier ++ written.map Rule.leftText).eraseDups =
      (earlier ++ rules.map Rule.leftText).eraseDups := by
  induction h generalizing earlier with
  | nil => rfl
  | @whole rule rules written hlater ih =>
      have hwhole := ih (earlier ++ [rule.leftText])
      rwa [List.append_assoc, List.append_assoc] at hwhole
  | @part first later rules written hleft hlater ih =>
      have hpart := ih (earlier ++ [first.leftText])
      rw [List.map_cons, leftText_eq hleft, eraseDups_append_cons_of_mem
        (List.mem_append_right _ List.mem_cons_self), List.append_assoc,
        List.append_assoc] at hpart
      exact hpart

theorem Spread.productions (h : Spread rules written) (left : String) :
    (written.filter (·.leftText = left)).flatMap Rule.productions =
      (rules.filter (·.leftText = left)).flatMap Rule.productions := by
  induction h with
  | nil => rfl
  | @whole rule rules written hlater ih =>
      simp only [List.filter_cons]
      split
      · rw [List.flatMap_cons, ih, List.flatMap_cons]
      · exact ih
  | @part first later rules written hleft hlater ih =>
      have hsame : (first.extended later.alternatives).leftText =
          first.leftText := rfl
      simp only [List.filter_cons, leftText_eq hleft] at ih
      simp only [List.filter_cons, hsame]
      split
      · next hmatches =>
          rw [if_pos hmatches, List.flatMap_cons] at ih
          rw [List.flatMap_cons, ih, List.flatMap_cons, productions_extended,
            List.append_assoc]
          rfl
      · next hdiffers =>
          rw [if_neg hdiffers] at ih
          exact ih

/-- Spreading alternatives over several rules does not change what the rules
mean. -/
theorem Spread.describes (h : Spread rules written) {grammar : Grammar}
    (hwritten : Describes written starts grammar) :
    Describes rules starts grammar where
  mem_nonterminals := by
    intro symbol
    rw [hwritten.mem_nonterminals]
    simp only [HasName, h.occurs]
  mem_terminals := by
    intro symbol
    rw [hwritten.mem_terminals]
    simp only [HasTerminal, h.occurs]
  names := hwritten.names.trans (h.names [])
  productionsOf := fun left =>
    (hwritten.productionsOf left).trans (h.productions left)
  start_given := hwritten.start_given
  start_usual := hwritten.start_usual

end Spreading

end RightLinear.Grammar.Format
