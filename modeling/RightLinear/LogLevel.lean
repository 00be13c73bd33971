/-! The level from which messages are logged. -/

namespace RightLinear.LogLevel

def named : List (String × Nat) :=
  [("CRITICAL", 50), ("FATAL", 50), ("ERROR", 40), ("WARNING", 30),
    ("WARN", 30), ("INFO", 20), ("DEBUG", 10), ("NOTSET", 0)]

def warning : Nat := 30

def debug : Nat := 10

/-- The capitals of a letter where they are ASCII; no level has other ones. -/
def capitals (character : Char) : List Char :=
  match character with
  | 'ı' => ['I']
  | 'ſ' => ['S']
  | 'ß' => ['S', 'S']
  | 'ﬀ' => ['F', 'F']
  | 'ﬁ' => ['F', 'I']
  | 'ﬂ' => ['F', 'L']
  | 'ﬃ' => ['F', 'F', 'I']
  | 'ﬄ' => ['F', 'F', 'L']
  | 'ﬅ' => ['S', 'T']
  | 'ﬆ' => ['S', 'T']
  | _ => [character.toUpper]

def ofName (name : String) : Nat :=
  (named.lookup (String.ofList (name.toList.flatMap capitals))).getD warning

/-- A request for debugging outweighs a named level, unless it is empty. -/
def choose (debugging name : Option String) : Nat :=
  if (debugging.getD "").isEmpty then ofName (name.getD "WARNING") else debug

end RightLinear.LogLevel
