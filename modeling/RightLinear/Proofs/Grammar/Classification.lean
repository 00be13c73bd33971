import RightLinear.Proofs.Grammar.Kind

/-! The kind of a grammar read off its productions.  A grammar is regular if all
left-hand sides of productions are single non-terminals, and else
context-sensitive if no production is shorter than its left-hand side; only the
set of productions matters, and more productions can only take kinds away. -/

namespace RightLinear

theorem Production.length_symbols (production : Production) :
    production.symbols.length = if production.ends then 1 else 2 := by
  unfold symbols ends
  cases production.target with
  | none => rfl
  | some target => rfl

namespace Grammar

theorem Kind.number_injective {first second : Kind}
    (h : first.number = second.number) : first = second := by
  have hlisted : ∀ kind : Kind, Kind.all[kind.number]? = some kind := by
    intro kind
    cases kind <;> rfl
  apply Option.some.inj
  rw [← hlisted first, ← hlisted second, h]

theorem Kind.number_le (kind : Kind) : kind.number ≤ regular.number := by
  cases kind <;> decide

variable {grammar other : Grammar} {rule : String × Production}

/-- Every production has a single non-terminal on its left. -/
def HasSingleLefts (grammar : Grammar) : Prop :=
  ∀ rule ∈ grammar.ruleList, rule.1 ∈ grammar.nonterminals

/-- The production has as many symbols as the split of its left-hand side, or
more. -/
def Grows (grammar : Grammar) (rule : String × Production) : Prop :=
  ∃ symbols,
    splitSymbols grammar.nonterminals grammar.terminals rule.1 = some symbols ∧
      symbols.length ≤ if rule.2.ends then 1 else 2

def NeverShrinks (grammar : Grammar) : Prop :=
  ∀ rule ∈ grammar.ruleList, grammar.Grows rule

theorem all_isContextFreeRule_iff_hasSingleLefts :
    grammar.ruleList.all grammar.isContextFreeRule = true ↔
      grammar.HasSingleLefts := by
  simp only [List.all_eq_true, isContextFreeRule, decide_eq_true_eq,
    HasSingleLefts]

/-- Every left-hand side has a split, and no production is without symbols. -/
theorem isGrowingRule_iff (h : rule ∈ grammar.ruleList) :
    grammar.isGrowingRule rule = true ↔ grammar.Grows rule := by
  obtain ⟨symbols, hsplit, _⟩ :=
    grammar.left_side rule.1 (left_mem_names (mem_ruleList.mp h))
  have hlength : grammar.leftLength rule.1 = symbols.length := by
    rw [leftLength, hsplit, Option.getD_some]
  have hgrowing : grammar.isGrowingRule rule =
      decide (grammar.leftLength rule.1 ≤ rule.2.symbols.length) := rfl
  rw [hgrowing, decide_eq_true_eq, hlength, Production.length_symbols]
  constructor
  · exact fun hle => ⟨symbols, hsplit, hle⟩
  · intro hgrows
    obtain ⟨found, hfound, hle⟩ := hgrows
    rw [hsplit] at hfound
    rwa [Option.some.inj hfound]

theorem all_isGrowingRule_iff_neverShrinks :
    grammar.ruleList.all grammar.isGrowingRule = true ↔
      grammar.NeverShrinks := by
  rw [List.all_eq_true]
  exact forall₂_congr fun rule hrule => isGrowingRule_iff hrule

theorem HasSingleLefts.kind_eq (h : grammar.HasSingleLefts) :
    grammar.kind = .regular := by
  rw [Grammar.kind_eq, if_pos (all_isContextFreeRule_iff_hasSingleLefts.mpr h)]

theorem NeverShrinks.kind_eq (h : grammar.NeverShrinks)
    (hseveral : ¬ grammar.HasSingleLefts) :
    grammar.kind = .contextSensitive := by
  rw [Grammar.kind_eq,
    if_neg (mt all_isContextFreeRule_iff_hasSingleLefts.mp hseveral),
    if_pos (all_isGrowingRule_iff_neverShrinks.mpr h)]

theorem kind_eq_unrestricted (hseveral : ¬ grammar.HasSingleLefts)
    (hshrinks : ¬ grammar.NeverShrinks) : grammar.kind = .unrestricted := by
  rw [kind_eq, if_neg (mt all_isContextFreeRule_iff_hasSingleLefts.mp hseveral),
    if_neg (mt all_isGrowingRule_iff_neverShrinks.mp hshrinks)]

/-- With more productions over the same symbols a grammar meets fewer
restrictions. -/
theorem number_kind_le (hnonterminals : other.nonterminals = grammar.nonterminals)
    (hterminals : other.terminals = grammar.terminals)
    (hrules : grammar.ruleList ⊆ other.ruleList) :
    other.kind.number ≤ grammar.kind.number := by
  by_cases hsingle : grammar.HasSingleLefts
  · rw [hsingle.kind_eq]
    exact Kind.number_le other.kind
  have hseveral : ¬ other.HasSingleLefts := fun hall =>
    hsingle fun rule hrule => hnonterminals ▸ hall rule (hrules hrule)
  by_cases hgrows : other.NeverShrinks
  · have hfewer : grammar.NeverShrinks := by
      intro rule hrule
      rw [Grows, ← hnonterminals, ← hterminals]
      exact hgrows rule (hrules hrule)
    rw [hgrows.kind_eq hseveral, hfewer.kind_eq hsingle]
  · rw [kind_eq_unrestricted hseveral hgrows]
    exact Nat.zero_le _

/-- The kind of a grammar is decided by the set of its productions, and adding
productions never makes it more restrictive. -/
theorem kind_decided_by_productions (grammar : Grammar) :
    (grammar.kind ≠ .contextFree ∧
      (grammar.kind = .regular ↔ grammar.HasSingleLefts) ∧
      (grammar.kind = .contextSensitive ↔
        ¬ grammar.HasSingleLefts ∧ grammar.NeverShrinks) ∧
      (grammar.kind = .unrestricted ↔
        ¬ grammar.HasSingleLefts ∧ ¬ grammar.NeverShrinks)) ∧
      ∀ other : Grammar, other.nonterminals = grammar.nonterminals →
        other.terminals = grammar.terminals →
        grammar.ruleList ⊆ other.ruleList →
          other.kind.number ≤ grammar.kind.number ∧
            (other.ruleList ⊆ grammar.ruleList → other.kind = grammar.kind) := by
  constructor
  · by_cases hsingle : grammar.HasSingleLefts
    · simp [hsingle.kind_eq, hsingle]
    by_cases hgrows : grammar.NeverShrinks
    · simp [hgrows.kind_eq hsingle, hsingle, hgrows]
    · simp [kind_eq_unrestricted hsingle hgrows, hsingle, hgrows]
  · intro other hnonterminals hterminals hrules
    have hle := number_kind_le hnonterminals hterminals hrules
    refine ⟨hle, fun hback => Kind.number_injective ?_⟩
    exact Nat.le_antisymm hle
      (number_kind_le hnonterminals.symm hterminals.symm hback)

end Grammar

end RightLinear
