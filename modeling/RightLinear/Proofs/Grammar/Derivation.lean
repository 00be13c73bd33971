import RightLinear.Grammar.Basic

/-! Derivations.  A chain of productions, each leading to the left-hand side of
the next, spells the word of their terminals; the last one ends. -/

namespace RightLinear.Grammar

inductive DerivesFrom (grammar : Grammar) : String → List String → Prop
  | ending {left terminal : String}
      (last : ⟨terminal, none⟩ ∈ grammar.productionsOf left) :
      DerivesFrom grammar left [terminal]
  | continuing {left terminal next : String} {word : List String}
      (first : ⟨terminal, some next⟩ ∈ grammar.productionsOf left)
      (rest : DerivesFrom grammar next word) :
      DerivesFrom grammar left (terminal :: word)

def Derives (grammar : Grammar) (word : List String) : Prop :=
  grammar.DerivesFrom grammar.start word

variable {grammar : Grammar} {left : String} {production : Production}

theorem DerivesFrom.ne_nil {word : List String}
    (h : grammar.DerivesFrom left word) : word ≠ [] := by
  cases h with
  | ending last => exact List.cons_ne_nil _ _
  | continuing first rest => exact List.cons_ne_nil _ _

theorem mem_productionsOf :
    production ∈ grammar.productionsOf left ↔
      ∃ productions, (left, productions) ∈ grammar.rules.entries ∧
        production ∈ productions := by
  simp only [productionsOf, ← Registry.get?_eq_some_iff]
  cases grammar.rules.get? left with
  | none => simp
  | some productions => simp

theorem mem_ruleList :
    (left, production) ∈ grammar.ruleList ↔
      production ∈ grammar.productionsOf left := by
  rw [mem_productionsOf]
  simp only [ruleList, List.mem_flatMap, List.mem_map, Prod.mk.injEq,
    Prod.exists]
  constructor
  · intro h
    obtain ⟨_, productions, hentry, _, hproduction, rfl, rfl⟩ := h
    exact ⟨productions, hentry, hproduction⟩
  · intro h
    obtain ⟨productions, hentry, hproduction⟩ := h
    exact ⟨left, productions, hentry, production, hproduction, rfl, rfl⟩

theorem left_mem_names (h : production ∈ grammar.productionsOf left) :
    left ∈ grammar.rules.names := by
  obtain ⟨productions, hentry, _⟩ := mem_productionsOf.mp h
  exact List.mem_map.mpr ⟨_, hentry, rfl⟩

theorem terminal_mem_of_mem_productionsOf
    (h : production ∈ grammar.productionsOf left) :
    production.terminal ∈ grammar.terminals := by
  obtain ⟨productions, hentry, hproduction⟩ := mem_productionsOf.mp h
  exact grammar.terminal_mem _ hentry production hproduction

theorem target_mem_of_mem_productionsOf
    (h : production ∈ grammar.productionsOf left) {target : String}
    (htarget : production.target = some target) :
    target ∈ grammar.nonterminals := by
  obtain ⟨productions, hentry, hproduction⟩ := mem_productionsOf.mp h
  exact grammar.target_mem _ hentry production hproduction target htarget

theorem DerivesFrom.terminal_mem {word : List String}
    (h : grammar.DerivesFrom left word) :
    ∀ symbol ∈ word, symbol ∈ grammar.terminals := by
  induction h with
  | ending last =>
      exact List.forall_mem_singleton.mpr (terminal_mem_of_mem_productionsOf last)
  | continuing first _ ih =>
      exact List.forall_mem_cons.mpr
        ⟨terminal_mem_of_mem_productionsOf first, ih⟩

theorem DerivesFrom.length_symbol {word : List String}
    (h : grammar.DerivesFrom left word) :
    ∀ symbol ∈ word, symbol.length = 1 :=
  fun symbol hsymbol =>
    grammar.length_terminal symbol (h.terminal_mem symbol hsymbol)

end RightLinear.Grammar
