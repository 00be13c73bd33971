import RightLinear.Grammar.Kind
import RightLinear.Proofs.Grammar.Exactness
import RightLinear.Proofs.Grammar.Splitting
import RightLinear.Proofs.Grammar.Terminals

/-! Left-hand sides of grammars that are read from a text.  Their tokens are
joined without separators and split again later.  The tokens are always one way
to write the left-hand side, but names of several characters can make another
one, and then the split need not be the tokens. -/

namespace RightLinear.Grammar

open Text Document

section Tokens

theorem Token.IsRead.symbol_ne_empty {token : Token} (h : token.IsRead) :
    token.symbol ≠ "" := by
  intro hempty
  have hnil := congrArg String.toList hempty
  cases h with
  | bracketed hne hname =>
      rw [Token.symbol, String.toList_ofList] at hnil
      exact hne hnil
  | capital hletter hsuffix =>
      rw [Token.symbol, String.toList_ofList] at hnil
      contradiction
  | single character =>
      rw [Token.symbol, String.toList_singleton] at hnil
      contradiction

theorem Spelled.isRead {found : List Token} {text : List Char}
    (h : Spelled found text) : ∀ token ∈ found, token.IsRead := by
  induction h with
  | nil hgap => exact List.forall_mem_nil _
  | cons hgap htoken hlater ih => exact List.forall_mem_cons.mpr ⟨htoken, ih⟩

end Tokens

section Lines

variable {line : List Char} {rule : Rule}

/-- The left-hand side of a line is never empty. -/
theorem left_of_readLine (h : readLine line = .ok (.rule rule)) :
    rule.left ≠ [] ∧ ∀ token ∈ rule.left, token.IsRead := by
  have hread := readRule_of_readLine h
  rw [readRule] at hread
  split at hread
  · contradiction
  · next left right hcut =>
      split at hread
      · contradiction
      · next hne =>
          obtain rfl := Except.ok.inj hread
          exact ⟨fun hnil => hne (List.isEmpty_iff.mpr hnil),
            (spelled_tokens left).isRead⟩

theorem symbol_mem_declared {rules : List Rule} {token : Token}
    (h : token ∈ rules.flatMap Rule.tokens) :
    token.symbol ∈ declaredNonterminals rules ∨
      token.symbol ∈ declaredTerminals rules := by
  cases hkind : token.isNonterminal with
  | true =>
      exact .inl (List.mem_map_of_mem (List.mem_filter.mpr ⟨h, hkind⟩))
  | false =>
      exact .inr (List.mem_map_of_mem (List.mem_filter.mpr ⟨h, by simp [hkind]⟩))

variable {text : String} {grammar : Grammar}

/-- Every token of a line is declared. -/
theorem declared_of_read (hread : read text = .ok grammar)
    (hline : line ∈ Text.lines text.toList)
    (hrule : readLine line = .ok (.rule rule)) :
    ∀ token ∈ rule.tokens,
      token.symbol ∈ grammar.nonterminals ∨ token.symbol ∈ grammar.terminals := by
  obtain ⟨found, productions, hlines, -, -, hformed, rfl⟩ :=
    exists_description_of_read hread
  intro token htoken
  obtain ⟨result, hresult, hfound⟩ := exists_of_mapM hlines line hline
  rw [hrule] at hfound
  cases hfound
  have hmem : token ∈ (found.filterMap Line.rule?).flatMap Rule.tokens :=
    List.mem_flatMap.mpr ⟨rule, List.mem_filterMap.mpr ⟨_, hresult, rfl⟩, htoken⟩
  rcases symbol_mem_declared hmem with hname | hterminal
  · exact .inl (SortedSet.mem_ofList.mpr (List.mem_append_right _ hname))
  · exact .inr (SortedSet.mem_ofList.mpr hterminal)

/-- The tokens of a left-hand side are one way to write it. -/
theorem isSplit_left (hread : read text = .ok grammar)
    (hline : line ∈ Text.lines text.toList)
    (hrule : readLine line = .ok (.rule rule)) :
    IsSplit grammar.nonterminals grammar.terminals
      (rule.left.map Token.symbol) rule.leftText where
  declared := by
    rw [List.forall_mem_map]
    exact fun token htoken => declared_of_read hread hline hrule token
      (List.mem_append_left _ htoken)
  nonempty := by
    rw [List.forall_mem_map]
    exact fun token htoken =>
      ((left_of_readLine hrule).2 token htoken).symbol_ne_empty
  join := rfl

theorem leftText_ne_empty (h : readLine line = .ok (.rule rule)) :
    rule.leftText ≠ "" := by
  obtain ⟨hne, hleft⟩ := left_of_readLine h
  obtain ⟨token, later, heq⟩ := List.exists_cons_of_ne_nil hne
  rw [heq] at hleft
  rw [Rule.leftText, heq, List.map_cons, String.join_cons]
  intro hempty
  exact (hleft token List.mem_cons_self).symbol_ne_empty
    (String.append_eq_empty_iff.mp hempty).1

end Lines

/-- A left-hand side is always split, and it is split as it was written exactly
if no other way to write it has the longer symbol where the two first differ; so
it is where all names are single characters. -/
theorem left_split_as_written_iff {text : String} {grammar : Grammar}
    {line : List Char} {rule : Rule} (hread : read text = .ok grammar)
    (hline : line ∈ Text.lines text.toList)
    (hrule : readLine line = .ok (.rule rule)) :
    (∃ symbols, splitSymbols grammar.nonterminals grammar.terminals
        rule.leftText = some symbols) ∧
      (splitSymbols grammar.nonterminals grammar.terminals rule.leftText =
          some (rule.left.map Token.symbol) ↔
        ∀ other, IsSplit grammar.nonterminals grammar.terminals other
            rule.leftText →
          other ≠ rule.left.map Token.symbol →
            List.Lex (· < ·) (other.map String.length)
              ((rule.left.map Token.symbol).map String.length)) ∧
        ((∀ name ∈ grammar.nonterminals, name.length = 1) →
          splitSymbols grammar.nonterminals grammar.terminals rule.leftText =
            some (rule.left.map Token.symbol)) := by
  have hsplit := isSplit_left hread hline hrule
  have hne := leftText_ne_empty hrule
  refine ⟨hsplit.exists_splitSymbols hne, ?_, ?_⟩
  · rw [splitSymbols_eq_some_iff hne]
    exact ⟨IsPreferred.greatest, fun hgreatest => ⟨hsplit, hgreatest⟩⟩
  · intro hnames
    rw [splitSymbols_eq_some_iff hne]
    apply hsplit.isPreferred
    rintro symbol (hnonterminal | hterminal)
    · exact hnames symbol hnonterminal
    · exact grammar.length_terminal symbol hterminal

/-- A left-hand side of two letters. -/
def repeatedRule : Format.Rule where
  left := [.name Format.letterName, .name Format.letterName]
  alternatives := [⟨Format.smallLetter, some Format.letterName⟩]
  exists_name := ⟨Format.letterName, List.mem_cons_self⟩
  alternatives_ne_nil := List.cons_ne_nil _ _

theorem repeatedRule_isText : Format.IsText [repeatedRule] [] "S S -> bS" := by
  have hleft : Format.LeftText repeatedRule.left "S S".toList :=
    @Format.LeftText.cons (.name Format.letterName) [.name Format.letterName]
      [' '] "S".toList Format.isGap_space (List.cons_ne_nil _ _)
      (.single (.name Format.letterName))
  have hright : Format.RightText repeatedRule.alternatives "bS".toList :=
    .single (.onward Format.smallLetter Format.letterName Format.isGap_nil)
  have hrule : Format.RuleText repeatedRule "S S -> bS".toList :=
    .rule hleft Format.isGap_space .plain Format.isGap_space hright
  have hlines : Format.Lines [repeatedRule] [] ["S S -> bS".toList] :=
    .rule hrule (Format.padded_self _) .nil
  exact ⟨_, _, .whole .nil, hlines, rfl⟩

theorem repeatedRule_split_as_written :
    ∃ grammar, read "S S -> bS" = .ok grammar ∧
      readLine "S S -> bS".toList =
          .ok (.rule ⟨[.plain "S", .plain "S"], [[.plain "b", .plain "S"]]⟩) ∧
        splitSymbols grammar.nonterminals grammar.terminals "SS" =
          some ["S", "S"] := by
  have hplain : ∀ rule ∈ [repeatedRule], rule.EndsPlain := by
    rw [List.forall_mem_singleton]
    intro symbol hsymbol label hlabel
    rw [hlabel] at hsymbol
    simp [repeatedRule, Format.letterName] at hsymbol
  obtain ⟨grammar, hread, hdescribes⟩ :=
    Format.read_of_isText (List.cons_ne_nil _ _) hplain repeatedRule_isText
  have hline : (readLine "S S -> bS".toList).toOption =
      some (.rule ⟨[.plain "S", .plain "S"], [[.plain "b", .plain "S"]]⟩) := by
    decide +kernel
  obtain ⟨-, -, hshort⟩ := left_split_as_written_iff hread (by decide +kernel)
    (eq_ok_of_toOption hline)
  refine ⟨grammar, hread, eq_ok_of_toOption hline, hshort fun name hname => ?_⟩
  rcases (hdescribes.mem_nonterminals name).mp hname with hnamed | ⟨_, hstart, _⟩
  · obtain ⟨label, ⟨rule, hrule, hmem⟩, rfl⟩ := hnamed
    rw [List.mem_singleton.mp hrule] at hmem
    have hletter : label = Format.letterName := by
      simpa [repeatedRule, Format.Rule.symbols, Format.Alternative.symbols]
        using hmem
    rw [hletter]
    rfl
  · contradiction

/-- The tokens `A` and `B` make the name `AB`, so the line counts as one for
that name. -/
theorem joinedTokens_read_as_name :
    ∃ grammar, read "S -> a<AB>\nAB -> b" = .ok grammar ∧
      "AB -> b".toList ∈ Text.lines "S -> a<AB>\nAB -> b".toList ∧
        readLine "AB -> b".toList =
          .ok (.rule ⟨[.plain "A", .plain "B"], [[.plain "b"]]⟩) ∧
          splitSymbols grammar.nonterminals grammar.terminals "AB" =
            some ["AB"] ∧
            grammar.kind = .regular := by
  have hread : ((read "S -> a<AB>\nAB -> b").toOption.map fun grammar =>
      (splitSymbols grammar.nonterminals grammar.terminals "AB",
        grammar.kind)) = some (some ["AB"], .regular) := by decide +kernel
  obtain ⟨grammar, hgrammar, heq⟩ := Option.map_eq_some_iff.mp hread
  obtain ⟨hsplit, hkind⟩ := Prod.mk.inj heq
  have hline : (readLine "AB -> b".toList).toOption =
      some (.rule ⟨[.plain "A", .plain "B"], [[.plain "b"]]⟩) := by
    decide +kernel
  exact ⟨grammar, eq_ok_of_toOption hgrammar, by decide +kernel,
    eq_ok_of_toOption hline, hsplit, hkind⟩

end RightLinear.Grammar
