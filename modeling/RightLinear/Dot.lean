/-! Directed graphs in the DOT language, and the quoting of its values. -/

namespace RightLinear.Dot

structure Attribute where
  name : String
  value : String
  deriving DecidableEq

inductive Statement where
  | defaults (element : String) (attributes : List Attribute)
  | node (name : String) (attributes : List Attribute)
  | edge (source target : String) (attributes : List Attribute)
  deriving DecidableEq

structure Digraph where
  name : String
  statements : List Statement
  deriving DecidableEq

private def isNameStart (character : Char) : Bool :=
  character.isAlpha || character == '_'

private def isNameCharacter (character : Char) : Bool :=
  character.isAlphanum || character == '_'

def keywords : List String :=
  ["node", "edge", "graph", "digraph", "subgraph", "strict"]

def isName : List Char → Bool
  | [] => false
  | first :: rest => isNameStart first && rest.all isNameCharacter

/-- Digits, a point among them or not, or a point and digits. -/
def isUnsignedNumeral (text : List Char) : Bool :=
  let whole := text.takeWhile Char.isDigit
  match text.dropWhile Char.isDigit with
  | [] => !whole.isEmpty
  | '.' :: fraction =>
      fraction.all Char.isDigit && (!whole.isEmpty || !fraction.isEmpty)
  | _ => false

def isNumeral : List Char → Bool
  | '-' :: text => isUnsignedNumeral text
  | text => isUnsignedNumeral text

/-- Text between angle brackets, which stands for itself. -/
def isMarkup (text : List Char) : Bool :=
  text.head? == some '<' && text.getLast? == some '>'

def withoutFinalLineFeed (text : List Char) : List Char :=
  if text.getLast? == some '\n' then text.dropLast else text

/-- Whether a value is written without quotation marks.  Its form is judged
without a line feed at its end, but with one a keyword is no keyword. -/
def isPlain (text : List Char) : Bool :=
  let form := withoutFinalLineFeed text
  isMarkup form ||
    (isName form || isNumeral form) &&
      !keywords.contains (String.ofList (text.map Char.toLower))

/-- A quotation mark is escaped unless an odd number of backslashes stands
before it; `odd` says whether that is so here. -/
def escapeMarks : (odd : Bool) → List Char → List Char
  | _, [] => []
  | odd, '\\' :: rest => '\\' :: escapeMarks (!odd) rest
  | true, '\x22' :: rest => '\x22' :: escapeMarks false rest
  | false, '\x22' :: rest => '\\' :: '\x22' :: escapeMarks false rest
  | _, character :: rest => character :: escapeMarks false rest

def written (text : String) : String :=
  if isPlain text.toList then text
  else "\x22" ++ String.ofList (escapeMarks false text.toList) ++ "\x22"

def Attribute.source (item : Attribute) : String :=
  item.name ++ "=" ++ written item.value

private def attributeList (attributes : List Attribute) : String :=
  if attributes.isEmpty then ""
  else " [" ++ " ".intercalate (attributes.map Attribute.source) ++ "]"

def Statement.source : Statement → String
  | defaults element attributes => element ++ attributeList attributes
  | node name attributes => written name ++ attributeList attributes
  | edge start finish attributes =>
      written start ++ " -> " ++ written finish ++ attributeList attributes

def Digraph.source (graph : Digraph) : String :=
  "digraph " ++ written graph.name ++ " \x7b\n" ++
    String.join
      (graph.statements.map fun statement => "\t" ++ statement.source ++ "\n") ++
    "\x7d\n"

end RightLinear.Dot
