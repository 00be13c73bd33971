import RightLinear.Grammar.Kind
import RightLinear.Proofs.Conversion.ToAutomaton
import RightLinear.Proofs.Grammar.Reading

/-! The kind of a grammar is decided by its productions, while the automaton of
a grammar asks about every left-hand side.  The two agree wherever a left-hand
side of several symbols has a production; one without productions is not
noticed by the kind and stands in the way of the automaton. -/

namespace RightLinear.Grammar

variable {grammar : Grammar}

/-- What a production mentions is always declared, so of the conditions on a
regular rule only the one on its left-hand side says anything. -/
theorem isRegularRule_eq {rule : String × Production}
    (h : rule ∈ grammar.ruleList) :
    grammar.isRegularRule rule = grammar.isContextFreeRule rule := by
  obtain ⟨left, production⟩ := rule
  have hproduction := mem_ruleList.mp h
  have hterminal := terminal_mem_of_mem_productionsOf hproduction
  have htarget : (production.target.all fun target =>
      decide (target ∈ grammar.nonterminals)) = true := by
    cases hcontinues : production.target with
    | none => rfl
    | some target =>
        simpa using target_mem_of_mem_productionsOf hproduction hcontinues
  simp [isRegularRule, isContextFreeRule, hterminal, htarget]

theorem all_isRegularRule :
    grammar.ruleList.all grammar.isRegularRule =
      grammar.ruleList.all grammar.isContextFreeRule := by
  rw [Bool.eq_iff_iff, List.all_eq_true, List.all_eq_true]
  constructor
  · exact fun hall rule hrule => isRegularRule_eq hrule ▸ hall rule hrule
  · exact fun hall rule hrule => isRegularRule_eq hrule ▸ hall rule hrule

theorem all_isContextFreeRule_iff :
    grammar.ruleList.all grammar.isContextFreeRule = true ↔
      ∀ {left production}, production ∈ grammar.productionsOf left →
        left ∈ grammar.nonterminals := by
  simp only [List.all_eq_true, Prod.forall, mem_ruleList, isContextFreeRule,
    decide_eq_true_eq]

/-- A restriction is left after some productions if it was there before and each
of them meets it. -/
theorem foldl_restrict (rules : List (String × Production))
    (restrictions : Restrictions) :
    rules.foldl grammar.restrict restrictions =
      { regular := restrictions.regular && rules.all grammar.isRegularRule
        contextFree :=
          restrictions.contextFree && rules.all grammar.isContextFreeRule
        growing := restrictions.growing && rules.all grammar.isGrowingRule } := by
  induction rules generalizing restrictions with
  | nil => simp only [List.foldl_nil, List.all_nil, Bool.and_true]
  | cons rule rules ih =>
      rw [List.foldl_cons, ih]
      simp only [restrict, List.all_cons, Bool.and_assoc]

theorem kind_eq (grammar : Grammar) :
    grammar.kind =
      if grammar.ruleList.all grammar.isContextFreeRule then .regular
      else if grammar.ruleList.all grammar.isGrowingRule then .contextSensitive
      else .unrestricted := by
  rw [kind, foldl_restrict, all_isRegularRule]
  simp only [Restrictions.kind, Restrictions.all, Bool.true_and, Bool.and_self]
  cases grammar.ruleList.all grammar.isContextFreeRule with
  | true => rfl
  | false => rfl

theorem kind_eq_regular_iff :
    grammar.kind = .regular ↔
      ∀ {left production}, production ∈ grammar.productionsOf left →
        left ∈ grammar.nonterminals := by
  rw [← all_isContextFreeRule_iff, kind_eq]
  split
  · next hfree => simp [hfree]
  · next hfree =>
      split
      · simp [hfree]
      · simp [hfree]

/-- A context-free grammar is regular already. -/
theorem kind_ne_contextFree (grammar : Grammar) :
    grammar.kind ≠ .contextFree := by
  rw [kind_eq]
  split
  · simp
  · split
    · simp
    · simp

theorem IsRightLinear.kind_eq (hlinear : grammar.IsRightLinear) :
    grammar.kind = .regular :=
  kind_eq_regular_iff.mpr fun hproduction =>
    hlinear _ (left_mem_names hproduction)

/-- A left-hand side that is no single non-terminal is noticed by the kind if it
has a production. -/
theorem isRightLinear_of_kind_eq (hkind : grammar.kind = .regular)
    (hproductive : ∀ left ∈ grammar.rules.names,
      ¬ left ∈ grammar.nonterminals → grammar.productionsOf left ≠ []) :
    grammar.IsRightLinear := by
  intro left hleft
  apply Classical.byContradiction
  intro houtside
  obtain ⟨production, hproduction⟩ :=
    List.exists_mem_of_ne_nil _ (hproductive left hleft houtside)
  exact houtside (kind_eq_regular_iff.mp hkind hproduction)

theorem exists_toAutomaton_eq_ok_iff :
    (∃ automaton, grammar.toAutomaton = .ok automaton) ↔
      grammar.IsRightLinear := by
  constructor
  · intro h
    obtain ⟨automaton, hautomaton⟩ := h
    apply Classical.byContradiction
    intro hlinear
    obtain ⟨_, _, _, herror⟩ := exists_toAutomaton_eq_error hlinear
    rw [herror] at hautomaton
    contradiction
  · exact fun hlinear => ⟨_, toAutomaton_eq_ok hlinear⟩

/-- The kind tells whether there is an automaton, as long as no left-hand side
of several symbols is without productions. -/
theorem kind_agrees_with_toAutomaton (grammar : Grammar)
    (hproductive : ∀ left ∈ grammar.rules.names,
      ¬ left ∈ grammar.nonterminals → grammar.productionsOf left ≠ []) :
    (grammar.kind = .regular ↔ grammar.IsRightLinear) ∧
      (grammar.IsRightLinear ↔
        ∃ automaton, grammar.toAutomaton = .ok automaton) ∧
        (¬ grammar.IsRightLinear →
          grammar.kind ≠ .contextFree ∧ grammar.kind ≠ .regular) := by
  have hkind : grammar.kind = .regular ↔ grammar.IsRightLinear :=
    ⟨fun hregular => isRightLinear_of_kind_eq hregular hproductive,
      IsRightLinear.kind_eq⟩
  refine ⟨hkind, exists_toAutomaton_eq_ok_iff.symm, ?_⟩
  intro hlinear
  exact ⟨kind_ne_contextFree grammar, fun hregular => hlinear (hkind.mp hregular)⟩

/-- The left-hand side `AB` with `copies` productions. -/
def pairGrammar (copies : Nat) : Grammar where
  nonterminals := SortedSet.ofList ["A", "B"]
  terminals := SortedSet.singleton "a"
  rules := ⟨[("AB", List.replicate copies ⟨"a", none⟩)], by simp⟩
  start := "A"
  length_terminal := by decide +kernel
  start_mem := by decide +kernel
  left_side := by
    intro left hleft
    obtain rfl : left = "AB" := List.mem_singleton.mp hleft
    have hjoin : String.join ["A", "B"] = "AB" := rfl
    rw [← hjoin]
    exact isLeftSide_join (by decide +kernel) (by decide +kernel)
      (by decide +kernel) List.mem_cons_self (by decide +kernel)
  terminal_mem := by
    intro rule hrule production hproduction
    rw [List.mem_singleton.mp hrule] at hproduction
    rw [List.eq_of_mem_replicate hproduction]
    decide +kernel
  target_mem := by
    intro rule hrule production hproduction target htarget
    rw [List.mem_singleton.mp hrule] at hproduction
    rw [List.eq_of_mem_replicate hproduction] at htarget
    contradiction

theorem pairGrammar_agrees_with_toAutomaton :
    (∀ left ∈ (pairGrammar 1).rules.names,
      ¬ left ∈ (pairGrammar 1).nonterminals →
        (pairGrammar 1).productionsOf left ≠ []) ∧
      ((pairGrammar 1).kind = .regular ↔ (pairGrammar 1).IsRightLinear) ∧
        ((pairGrammar 1).IsRightLinear ↔
          ∃ automaton, (pairGrammar 1).toAutomaton = .ok automaton) ∧
          (¬ (pairGrammar 1).IsRightLinear →
            (pairGrammar 1).kind ≠ .contextFree ∧
              (pairGrammar 1).kind ≠ .regular) := by
  have hproductive : ∀ left ∈ (pairGrammar 1).rules.names,
      ¬ left ∈ (pairGrammar 1).nonterminals →
        (pairGrammar 1).productionsOf left ≠ [] := by decide +kernel
  exact ⟨hproductive, kind_agrees_with_toAutomaton (pairGrammar 1) hproductive⟩

/-- Without productions, `AB` leaves the kind at regular, and still no automaton
is built. -/
theorem barePair_regular_without_automaton :
    (pairGrammar 0).kind = .regular ∧ ¬ (pairGrammar 0).IsRightLinear ∧
      (pairGrammar 0).toAutomaton = .error (.leftSide "AB") :=
  ⟨by decide +kernel, by decide +kernel, rfl⟩

end RightLinear.Grammar
