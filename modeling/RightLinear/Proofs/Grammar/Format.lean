import RightLinear.Grammar.Document
import RightLinear.Proofs.Text.Split

/-! What the text form of grammars allows: the symbols and rules that can be
written, every way to write them down, and the grammar that is meant.  Nothing
here refers to how a text is read. -/

namespace RightLinear.Grammar.Format

open Text

/-- A name that can stand between angle brackets. -/
structure Label where
  text : List Char
  ne_nil : text ≠ []
  avoids : Avoids ['<', '>', '|', '#', '→', '\n'] text
  no_arrow : ¬ "::=".toList <:+: text

inductive Name where
  | capital (letter : Char) (suffix : List Char)
      (isCapital : Token.isCapital letter = true)
      (isSuffix : ∀ character ∈ suffix, Token.isSuffix character = true)
  | bracketed (label : Label)

structure Terminal where
  character : Char
  not_blank : isBlank character = false
  not_uppercase : isUppercase character = false
  allowed : character ∉ ['|', '#', '→', 'ε', '<', '>']

inductive Symbol where
  | terminal (value : Terminal)
  | name (value : Name)

structure Alternative where
  terminal : Terminal
  target : Option Name

structure Rule where
  left : List Symbol
  alternatives : List Alternative
  exists_name : ∃ name, Symbol.name name ∈ left
  alternatives_ne_nil : alternatives ≠ []

section Meaning

namespace Name

def text : Name → List Char
  | capital letter suffix _ _ => letter :: suffix
  | bracketed label => label.text

def symbol (name : Name) : String := String.ofList name.text

def written : Name → List Char
  | capital letter suffix _ _ => letter :: suffix
  | bracketed label => '<' :: (label.text ++ ['>'])

end Name

def Terminal.symbol (terminal : Terminal) : String :=
  String.singleton terminal.character

namespace Symbol

def text : Symbol → String
  | .terminal value => value.symbol
  | .name value => value.symbol

def written : Symbol → List Char
  | .terminal value => [value.character]
  | .name value => value.written

/-- A name in brackets does not end in a hyphen, which would make an arrow
together with the bracket. -/
def EndsPlain (symbol : Symbol) : Prop :=
  ∀ label, symbol = .name (.bracketed label) → label.text.getLast? ≠ some '-'

end Symbol

namespace Alternative

def symbols (alternative : Alternative) : List Symbol :=
  .terminal alternative.terminal :: alternative.target.toList.map .name

def production (alternative : Alternative) : Production :=
  ⟨alternative.terminal.symbol, alternative.target.map Name.symbol⟩

end Alternative

namespace Rule

def symbols (rule : Rule) : List Symbol :=
  rule.left ++ rule.alternatives.flatMap Alternative.symbols

def leftText (rule : Rule) : String :=
  String.join (rule.left.map Symbol.text)

def productions (rule : Rule) : List Production :=
  rule.alternatives.map Alternative.production

/-- No name on the left makes an arrow. -/
def EndsPlain (rule : Rule) : Prop :=
  ∀ symbol ∈ rule.left, symbol.EndsPlain

/-- The rule with more alternatives after its own. -/
def extended (rule : Rule) (more : List Alternative) : Rule where
  left := rule.left
  alternatives := rule.alternatives ++ more
  exists_name := rule.exists_name
  alternatives_ne_nil := List.append_ne_nil_of_left_ne_nil
    rule.alternatives_ne_nil more

end Rule

def Occurs (rules : List Rule) (symbol : Symbol) : Prop :=
  ∃ rule ∈ rules, symbol ∈ rule.symbols

def HasName (rules : List Rule) (symbol : String) : Prop :=
  ∃ name, Occurs rules (.name name) ∧ name.symbol = symbol

def HasTerminal (rules : List Rule) (symbol : String) : Prop :=
  ∃ terminal, Occurs rules (.terminal terminal) ∧ terminal.symbol = symbol

/-- The start symbol of a grammar that names none: `S`, else the first
left-hand side that is a non-terminal, else the least non-terminal. -/
structure StartsAsUsual (grammar : Grammar) : Prop where
  letter : "S" ∈ grammar.nonterminals → grammar.start = "S"
  first : "S" ∉ grammar.nonterminals → ∀ left,
    grammar.rules.names.find? (fun left => decide (left ∈ grammar.nonterminals)) =
      some left → grammar.start = left
  least : "S" ∉ grammar.nonterminals →
    (∀ left ∈ grammar.rules.names, left ∉ grammar.nonterminals) →
      ∀ other ∈ grammar.nonterminals, ¬ other < grammar.start

/-- The grammar that `rules` mean when the lines in `starts` name the start
symbol. -/
structure Describes (rules : List Rule) (starts : List Name)
    (grammar : Grammar) : Prop where
  mem_nonterminals : ∀ symbol, symbol ∈ grammar.nonterminals ↔
    HasName rules symbol ∨ ∃ name ∈ starts.getLast?, name.symbol = symbol
  mem_terminals : ∀ symbol, symbol ∈ grammar.terminals ↔
    HasTerminal rules symbol
  names : grammar.rules.names = (rules.map Rule.leftText).eraseDups
  productionsOf : ∀ left, grammar.productionsOf left =
    (rules.filter (·.leftText = left)).flatMap Rule.productions
  start_given : ∀ name ∈ starts.getLast?, grammar.start = name.symbol
  start_usual : starts = [] → StartsAsUsual grammar

end Meaning

section Writing

/-- Blanks within a line. -/
def IsGap (gap : List Char) : Prop :=
  ∀ character ∈ gap, isBlank character = true ∧ character ≠ '\n'

/-- Symbols with blanks between them. -/
inductive LeftText : List Symbol → List Char → Prop
  | single (symbol : Symbol) : LeftText [symbol] symbol.written
  | cons {symbol : Symbol} {symbols : List Symbol} {gap text : List Char}
      (hgap : IsGap gap) (hne : gap ≠ []) (hlater : LeftText symbols text) :
      LeftText (symbol :: symbols) (symbol.written ++ (gap ++ text))

inductive AlternativeText : Alternative → List Char → Prop
  | final (terminal : Terminal) :
      AlternativeText ⟨terminal, none⟩ [terminal.character]
  | onward (terminal : Terminal) (target : Name) {gap : List Char}
      (hgap : IsGap gap) :
      AlternativeText ⟨terminal, some target⟩
        (terminal.character :: (gap ++ target.written))

inductive RightText : List Alternative → List Char → Prop
  | single {alternative : Alternative} {text : List Char}
      (htext : AlternativeText alternative text) : RightText [alternative] text
  | cons {alternative : Alternative} {alternatives : List Alternative}
      {text before after later : List Char}
      (htext : AlternativeText alternative text) (hbefore : IsGap before)
      (hafter : IsGap after) (hlater : RightText alternatives later) :
      RightText (alternative :: alternatives)
        (text ++ (before ++ '|' :: (after ++ later)))

inductive IsArrow : List Char → Prop
  | plain : IsArrow "->".toList
  | symbol : IsArrow "→".toList
  | definition : IsArrow "::=".toList

inductive RuleText (rule : Rule) : List Char → Prop
  | rule {left before arrow after right : List Char}
      (hleft : LeftText rule.left left) (hbefore : IsGap before)
      (harrow : IsArrow arrow) (hafter : IsGap after)
      (hright : RightText rule.alternatives right) :
      RuleText rule (left ++ (before ++ (arrow ++ (after ++ right))))

inductive StartText (name : Name) : List Char → Prop
  | bracketed {gap : List Char} (hgap : IsGap gap) :
      StartText name ("START:".toList ++ (gap ++ '<' :: (name.text ++ ['>'])))
  | bare {gap : List Char} (hgap : IsGap gap) (htrimmed : IsTrimmed name.text) :
      StartText name ("START:".toList ++ (gap ++ name.text))

/-- Nothing, or a comment up to the end of the line. -/
inductive CommentText : List Char → Prop
  | absent : CommentText []
  | present {text : List Char} (hline : '\n' ∉ text) : CommentText ('#' :: text)

/-- A line with blanks around what counts, and perhaps a comment. -/
inductive Padded (core : List Char) : List Char → Prop
  | padded {lead trail comment : List Char} (hlead : IsGap lead)
      (htrail : IsGap trail) (hcomment : CommentText comment) :
      Padded core (lead ++ (core ++ (trail ++ comment)))

/-- One rule a line, start lines, headings and empty lines anywhere. -/
inductive Lines : List Rule → List Name → List (List Char) → Prop
  | nil : Lines [] [] []
  | empty {rules : List Rule} {starts : List Name} {line : List Char}
      {lines : List (List Char)} (hline : Padded [] line)
      (hlater : Lines rules starts lines) : Lines rules starts (line :: lines)
  | heading {rules : List Rule} {starts : List Name} {line : List Char}
      {lines : List (List Char)} (hline : Padded "PRODUCTIONS:".toList line)
      (hlater : Lines rules starts lines) : Lines rules starts (line :: lines)
  | start {rules : List Rule} {starts : List Name} {name : Name}
      {core line : List Char} {lines : List (List Char)}
      (hcore : StartText name core) (hline : Padded core line)
      (hlater : Lines rules starts lines) :
      Lines rules (name :: starts) (line :: lines)
  | rule {rules : List Rule} {starts : List Name} {rule : Rule}
      {core line : List Char} {lines : List (List Char)}
      (hcore : RuleText rule core) (hline : Padded core line)
      (hlater : Lines rules starts lines) :
      Lines (rule :: rules) starts (line :: lines)

/-- The alternatives of a rule may be spread over several rules with the same
left-hand side. -/
inductive Spread : List Rule → List Rule → Prop
  | nil : Spread [] []
  | whole {rule : Rule} {rules written : List Rule}
      (hlater : Spread rules written) : Spread (rule :: rules) (rule :: written)
  | part {first later : Rule} {rules written : List Rule}
      (hleft : later.left = first.left)
      (hlater : Spread (later :: rules) written) :
      Spread (first.extended later.alternatives :: rules) (first :: written)

/-- The text is one of the ways to write `rules` down, with the lines in
`starts` among them. -/
def IsText (rules : List Rule) (starts : List Name) (text : String) : Prop :=
  ∃ written lines, Spread rules written ∧ Lines written starts lines ∧
    text = String.ofList (['\n'].intercalate lines)

end Writing

end RightLinear.Grammar.Format
