import RightLinear.Grammar.Symbols
import RightLinear.Registry
import RightLinear.Text.Quoted

/-! Grammars whose productions emit one terminal and then either end or go on
with one non-terminal.  A left-hand side is normally a single non-terminal, but
any sequence of symbols with a non-terminal in it will do, so that grammars of
every kind can be classified. -/

namespace RightLinear

structure Production where
  terminal : String
  target : Option String
  deriving DecidableEq

namespace Production

def ends (production : Production) : Bool := production.target.isNone

def symbols (production : Production) : List String :=
  production.terminal :: production.target.toList

def text (production : Production) : String :=
  production.terminal ++ production.target.getD ""

end Production

/-- Whether a left-hand side can be read with a non-terminal in it. -/
def Grammar.IsLeftSide (nonterminals terminals : SortedSet String)
    (left : String) : Prop :=
  ∃ symbols, Grammar.splitSymbols nonterminals terminals left = some symbols ∧
    ∃ symbol ∈ symbols, symbol ∈ nonterminals

/-- A non-terminal is read as itself, whatever other symbols it is made of. -/
theorem Grammar.isLeftSide_of_mem {nonterminals terminals : SortedSet String}
    {left : String} (hleft : left ∈ nonterminals) :
    Grammar.IsLeftSide nonterminals terminals left := by
  refine ⟨[left], ?_, left, List.mem_singleton_self left, hleft⟩
  rw [Grammar.splitSymbols, if_pos (.inl hleft)]

structure Grammar where
  nonterminals : SortedSet String
  terminals : SortedSet String
  rules : Registry (List Production)
  start : String
  length_terminal : ∀ terminal ∈ terminals, terminal.length = 1
  start_mem : start ∈ nonterminals
  left_side : ∀ left ∈ rules.names,
    Grammar.IsLeftSide nonterminals terminals left
  terminal_mem : ∀ rule ∈ rules.entries, ∀ production ∈ rule.2,
    production.terminal ∈ terminals
  target_mem : ∀ rule ∈ rules.entries, ∀ production ∈ rule.2,
    ∀ target, production.target = some target → target ∈ nonterminals

namespace Grammar

theorem eq_iff {first second : Grammar} :
    first = second ↔
      first.nonterminals = second.nonterminals ∧
        first.terminals = second.terminals ∧
          first.rules = second.rules ∧ first.start = second.start := by
  cases first
  cases second
  simp

instance : DecidableEq Grammar := fun _ _ => decidable_of_iff _ eq_iff.symm

/-- What a caller says about a grammar, before any check. -/
structure Description where
  nonterminals : List String
  terminals : List String
  rules : Registry (List Production)
  start : String

inductive Fault where
  | terminalLength (terminal : String)
  | start (symbol : String)
  | leftSide (left : String)
  | undeclaredTerminal (left : String) (production : Production)
  | undeclaredTarget (left : String) (production : Production) (target : String)
  deriving DecidableEq

def shownRule (left : String) (production : Production) : String :=
  left ++ " -> " ++ production.text

namespace Fault

open Text

private def detail : Fault → String
  | terminalLength terminal =>
      "terminal " ++ quoted terminal ++ " is not a single character"
  | start symbol =>
      "start symbol " ++ quoted symbol ++ " is not a non-terminal"
  | leftSide left =>
      "left-hand side " ++ quoted left ++
        " is not a sequence of grammar symbols containing a non-terminal"
  | undeclaredTerminal left production =>
      "terminal " ++ quoted production.terminal ++ " in " ++
        shownRule left production ++ " is not declared"
  | undeclaredTarget left production target =>
      "non-terminal " ++ quoted target ++ " in " ++
        shownRule left production ++ " is not declared"

def message (fault : Fault) : String :=
  "Invalid reference: " ++ fault.detail

end Fault

namespace Description

variable (description : Description)

def nonterminalSet : SortedSet String :=
  SortedSet.ofList description.nonterminals

def terminalSet : SortedSet String := SortedSet.ofList description.terminals

def terminalFault? (terminal : String) : Option Fault :=
  if terminal.length = 1 then none else some (.terminalLength terminal)

def startFault? : Option Fault :=
  if description.start ∈ description.nonterminals then none
  else some (.start description.start)

def leftSideFault? (left : String) : Option Fault :=
  match splitSymbols description.nonterminalSet description.terminalSet left with
  | some symbols =>
      if symbols.any fun symbol => decide (symbol ∈ description.nonterminals)
      then none else some (.leftSide left)
  | none => some (.leftSide left)

def productionFault? (left : String) (production : Production) :
    Option Fault :=
  if production.terminal ∉ description.terminals then
    some (.undeclaredTerminal left production)
  else
    match production.target with
    | some target =>
        if target ∈ description.nonterminals then none
        else some (.undeclaredTarget left production target)
    | none => none

def ruleFault? (rule : String × List Production) : Option Fault :=
  description.leftSideFault? rule.1 <|>
    rule.2.findSome? (description.productionFault? rule.1)

/-- The first fault, in the order terminals, start symbol, then rule by rule
the left-hand side and its productions. -/
def fault? : Option Fault :=
  description.terminals.findSome? terminalFault? <|>
    description.startFault? <|>
    description.rules.entries.findSome? description.ruleFault?

structure WellFormed : Prop where
  length_terminal : ∀ terminal ∈ description.terminals, terminal.length = 1
  start_mem : description.start ∈ description.nonterminals
  left_side : ∀ left ∈ description.rules.names,
    IsLeftSide description.nonterminalSet description.terminalSet left
  terminal_mem : ∀ rule ∈ description.rules.entries, ∀ production ∈ rule.2,
    production.terminal ∈ description.terminals
  target_mem : ∀ rule ∈ description.rules.entries, ∀ production ∈ rule.2,
    ∀ target, production.target = some target →
      target ∈ description.nonterminals

variable {description}

theorem leftSideFault?_eq_none_iff {left : String} :
    description.leftSideFault? left = none ↔
      IsLeftSide description.nonterminalSet description.terminalSet left := by
  unfold leftSideFault? IsLeftSide
  cases splitSymbols description.nonterminalSet description.terminalSet left with
  | none => simp
  | some symbols => simp [nonterminalSet]

theorem productionFault?_eq_none_iff {left : String} {production : Production} :
    description.productionFault? left production = none ↔
      production.terminal ∈ description.terminals ∧
        ∀ target, production.target = some target →
          target ∈ description.nonterminals := by
  unfold productionFault?
  cases production.target with
  | none => simp
  | some target => grind

theorem ruleFault?_eq_none_iff {rule : String × List Production} :
    description.ruleFault? rule = none ↔
      IsLeftSide description.nonterminalSet description.terminalSet rule.1 ∧
        ∀ production ∈ rule.2, production.terminal ∈ description.terminals ∧
          ∀ target, production.target = some target →
            target ∈ description.nonterminals := by
  simp only [ruleFault?, Option.orElse_eq_orElse, Option.orElse_eq_or,
    Option.or_eq_none_iff, List.findSome?_eq_none_iff,
    leftSideFault?_eq_none_iff, productionFault?_eq_none_iff]

theorem fault?_eq_none_iff :
    description.fault? = none ↔ description.WellFormed := by
  have hlength : ∀ terminal,
      terminalFault? terminal = none ↔ terminal.length = 1 := by
    intro terminal
    unfold terminalFault?
    split <;> simp_all
  have hstart : description.startFault? = none ↔
      description.start ∈ description.nonterminals := by
    unfold startFault?
    split <;> simp_all
  simp only [fault?, Option.orElse_eq_orElse, Option.orElse_eq_or,
    Option.or_eq_none_iff, List.findSome?_eq_none_iff, hlength, hstart,
    ruleFault?_eq_none_iff]
  constructor
  · rintro ⟨hterminals, hmem, hrules⟩
    refine ⟨hterminals, hmem, ?_, ?_, ?_⟩
    · intro left hleft
      obtain ⟨rule, hrule, rfl⟩ := List.mem_map.mp hleft
      exact (hrules rule hrule).1
    · exact fun rule hrule production hproduction =>
        ((hrules rule hrule).2 production hproduction).1
    · exact fun rule hrule production hproduction =>
        ((hrules rule hrule).2 production hproduction).2
  · rintro ⟨hterminals, hmem, hleft, hterminal, htarget⟩
    refine ⟨hterminals, hmem, ?_⟩
    exact fun rule hrule => ⟨hleft _ (List.mem_map_of_mem hrule),
      fun production hproduction =>
        ⟨hterminal rule hrule production hproduction,
          htarget rule hrule production hproduction⟩⟩

end Description

def ofWellFormed (description : Description) (h : description.WellFormed) :
    Grammar where
  nonterminals := description.nonterminalSet
  terminals := description.terminalSet
  rules := description.rules
  start := description.start
  length_terminal := by
    simpa [Description.terminalSet] using h.length_terminal
  start_mem := by simpa [Description.nonterminalSet] using h.start_mem
  left_side := h.left_side
  terminal_mem := by simpa [Description.terminalSet] using h.terminal_mem
  target_mem := by simpa [Description.nonterminalSet] using h.target_mem

def ofDescription (description : Description) : Except Fault Grammar :=
  match h : description.fault? with
  | some fault => .error fault
  | none => .ok (ofWellFormed description
      (Description.fault?_eq_none_iff.mp h))

theorem ofDescription_eq_ok {description : Description}
    (h : description.WellFormed) :
    ofDescription description = .ok (ofWellFormed description h) := by
  unfold ofDescription
  split
  · next fault hfault =>
      rw [Description.fault?_eq_none_iff.mpr h] at hfault
      contradiction
  · rfl

def productionsOf (grammar : Grammar) (left : String) : List Production :=
  (grammar.rules.get? left).getD []

/-- Every left-hand side together with each of its productions. -/
def ruleList (grammar : Grammar) : List (String × Production) :=
  grammar.rules.entries.flatMap fun (left, productions) =>
    productions.map fun production => (left, production)

/-- The same symbols, start and rules, whatever the order of the rules. -/
def sameRules (first second : Grammar) : Bool :=
  first.nonterminals == second.nonterminals &&
    first.terminals == second.terminals &&
    first.start == second.start &&
    first.rules.sameEntries second.rules

/-- Whether every left-hand side is a single non-terminal. -/
def IsRightLinear (grammar : Grammar) : Prop :=
  ∀ left ∈ grammar.rules.names, left ∈ grammar.nonterminals

instance (grammar : Grammar) : Decidable grammar.IsRightLinear :=
  inferInstanceAs (Decidable (∀ left ∈ grammar.rules.names, _))

end Grammar

end RightLinear
