import RightLinear.Grammar.Basic

/-! The four kinds of grammars, by the shape of their productions.  A left-hand
side without productions says nothing about the kind. -/

namespace RightLinear.Grammar

inductive Kind where
  | unrestricted
  | contextSensitive
  | contextFree
  | regular
  deriving DecidableEq

namespace Kind

def all : List Kind := [unrestricted, contextSensitive, contextFree, regular]

def number : Kind → Nat
  | unrestricted => 0
  | contextSensitive => 1
  | contextFree => 2
  | regular => 3

def name (kind : Kind) : String := "TYPE_" ++ toString kind.number

private def adjective : Kind → String
  | unrestricted => "unrestricted"
  | contextSensitive => "context-sensitive"
  | contextFree => "context-free"
  | regular => "regular"

def label (kind : Kind) : String :=
  "Type " ++ toString kind.number ++ " (" ++ kind.adjective ++ ")"

end Kind

def leftLength (grammar : Grammar) (left : String) : Nat :=
  ((splitSymbols grammar.nonterminals grammar.terminals left).getD []).length

def isContextFreeRule (grammar : Grammar) (rule : String × Production) :
    Bool :=
  decide (rule.1 ∈ grammar.nonterminals)

def isRegularRule (grammar : Grammar) (rule : String × Production) : Bool :=
  decide (rule.1 ∈ grammar.nonterminals) &&
    decide (rule.2.terminal ∈ grammar.terminals) &&
      rule.2.target.all fun target => decide (target ∈ grammar.nonterminals)

/-- Only the start symbol may be replaced by nothing. -/
def isGrowingRule (grammar : Grammar) (rule : String × Production) : Bool :=
  match rule.2.symbols with
  | [] => rule.1 == grammar.start
  | right => grammar.leftLength rule.1 ≤ right.length

/-- Which restrictions all productions looked at so far meet. -/
structure Restrictions where
  regular : Bool
  contextFree : Bool
  growing : Bool

namespace Restrictions

def all : Restrictions := ⟨true, true, true⟩

def kind (restrictions : Restrictions) : Kind :=
  if restrictions.regular && restrictions.contextFree then .regular
  else if restrictions.contextFree then .contextFree
  else if restrictions.growing then .contextSensitive
  else .unrestricted

end Restrictions

/-- What is left of the restrictions after one more production. -/
def restrict (grammar : Grammar) (restrictions : Restrictions)
    (rule : String × Production) : Restrictions where
  regular := restrictions.regular && grammar.isRegularRule rule
  contextFree := restrictions.contextFree && grammar.isContextFreeRule rule
  growing := restrictions.growing && grammar.isGrowingRule rule

def kind (grammar : Grammar) : Kind :=
  (grammar.ruleList.foldl grammar.restrict .all).kind

end RightLinear.Grammar
