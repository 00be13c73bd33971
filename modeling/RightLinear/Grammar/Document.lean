import RightLinear.Grammar.Basic
import RightLinear.Grammar.Token
import RightLinear.Text.Split

/-! The text form of grammars: productions such as `S -> bS | dA`, one left-hand
side a line, and perhaps a line `START: S`.  Everything after `#` is a
comment. -/

namespace RightLinear.Grammar

open Text

inductive DocumentError where
  | malformedLine (line : String)
  | missingLeftSide (line : String)
  | noProductions
  | emptyProduction
  | notRightLinear (left right : String)
  | fault (fault : Fault)
  deriving DecidableEq

/-- The sign for the empty word, which no production may have. -/
def epsilon : String := "ε"

namespace DocumentError

private def shownRight (right : String) : String :=
  if right.isEmpty then epsilon else right

def message : DocumentError → String
  | malformedLine line => "Malformed production line: " ++ quoted line
  | missingLeftSide line => "Missing left-hand side in " ++ quoted line
  | noProductions =>
      "No productions found or unable to determine start symbol"
  | emptyProduction => "Epsilon productions are not right-linear productions"
  | notRightLinear left right =>
      "Production " ++ left ++ " -> " ++ shownRight right ++
        " is not of the form 'a' or 'aB'"
  | fault found => found.message

end DocumentError

namespace Document

structure Rule where
  left : List Token
  alternatives : List (List Token)
  deriving DecidableEq

inductive Line where
  | blank
  | start (symbol : String)
  | rule (rule : Rule)
  deriving DecidableEq

def withoutComment (line : List Char) : List Char :=
  line.takeWhile (· != '#')

/-- Takes one pair of angle brackets off. -/
def unbracketed (text : List Char) : List Char :=
  if text.head? == some '<' && text.getLast? == some '>' then
    text.tail.dropLast
  else text

/-- All three arrows are read as `->`. -/
def withPlainArrows (line : List Char) : List Char :=
  replace "::=".toList "->".toList (replace "→".toList "->".toList line)

def readRule (line : List Char) : Except DocumentError Rule :=
  match cut? "->".toList line with
  | none => .error (.malformedLine (String.ofList line))
  | some (left, right) =>
      if (tokens left).isEmpty then
        .error (.missingLeftSide (String.ofList line))
      else .ok ⟨tokens left, (splitWhere (· == '|') right).map tokens⟩

def readLine (text : List Char) : Except DocumentError Line :=
  let line := trim (withoutComment text)
  if line.isEmpty then .ok .blank
  else if let some rest := after? "START:".toList line then
    .ok (.start (String.ofList (unbracketed (trim rest))))
  else if line = "PRODUCTIONS:".toList then .ok .blank
  else (readRule (withPlainArrows line)).map .rule

namespace Line

def start? : Line → Option String
  | start symbol => some symbol
  | _ => none

def rule? : Line → Option Rule
  | rule found => some found
  | _ => none

end Line

namespace Rule

def tokens (rule : Rule) : List Token :=
  rule.left ++ rule.alternatives.flatten

/-- The left-hand side written without separators. -/
def leftText (rule : Rule) : String :=
  String.join (rule.left.map Token.symbol)

end Rule

def declaredNonterminals (rules : List Rule) : List String :=
  ((rules.flatMap Rule.tokens).filter Token.isNonterminal).map Token.symbol

def declaredTerminals (rules : List Rule) : List String :=
  ((rules.flatMap Rule.tokens).filter (!·.isNonterminal)).map Token.symbol

def readProduction (left : String) (right : List Token) :
    Except DocumentError Production :=
  let refused := .error
    (.notRightLinear left (String.join (right.map Token.written)))
  match right with
  | [terminal] =>
      if terminal.isNonterminal then refused
      else .ok ⟨terminal.symbol, none⟩
  | [terminal, target] =>
      if terminal.isNonterminal || !target.isNonterminal then refused
      else .ok ⟨terminal.symbol, some target.symbol⟩
  | _ => refused

def readProductions (rule : Rule) :
    Except DocumentError (String × List Production) := do
  let productions ← rule.alternatives.mapM (readProduction rule.leftText)
  return (rule.leftText, productions)

/-- Rules with the same left-hand side are one rule, at the place of the
first. -/
def gather (rules : List (String × List Production)) :
    Registry (List Production) :=
  rules.foldl
    (fun gathered (left, productions) =>
      gathered.insert left ((gathered.get? left).getD [] ++ productions))
    ∅

/-- The start symbol where no line gives one: `S`, else the first left-hand
side that is a single non-terminal, else the least non-terminal. -/
def usualStart (nonterminals leftSides : List String) : String :=
  if "S" ∈ nonterminals then "S"
  else
    match leftSides.find? fun left => decide (left ∈ nonterminals) with
    | some left => left
    | none => (SortedSet.ofList nonterminals).toList.head?.getD ""

/-- Of several start lines the last one counts; an empty one gives no start. -/
def givenStart? (lines : List Line) : Option String :=
  (lines.filterMap Line.start?).getLast?.filter (!·.isEmpty)

def description (rules : List Rule) (start : Option String)
    (productions : Registry (List Production)) : Description where
  nonterminals := start.toList ++ declaredNonterminals rules
  terminals := declaredTerminals rules
  rules := productions
  start := start.getD (usualStart (declaredNonterminals rules) productions.names)

end Document

open Document

def read (text : String) : Except DocumentError Grammar := do
  let lines ← (lines text.toList).mapM readLine
  let rules := lines.filterMap Line.rule?
  if rules.isEmpty then throw .noProductions
  if epsilon ∈ declaredTerminals rules then throw .emptyProduction
  let productions ← rules.mapM readProductions
  (ofDescription (description rules (givenStart? lines)
    (gather productions))).mapError .fault

end RightLinear.Grammar
