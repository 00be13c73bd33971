import RightLinear.Text.Hexadecimal
import RightLinear.Text.Printable

/-! Labels as messages show them: in quotes, with escapes for the quote, the
backslash and whatever is not printable. -/

namespace RightLinear.Text

private def singleQuote : Char := '\x27'

private def doubleQuote : Char := '\x22'

def escaped (quote character : Char) : List Char :=
  if character = quote ∨ character = '\\' then ['\\', character]
  else if character = '\n' then ['\\', 'n']
  else if character = '\r' then ['\\', 'r']
  else if character = '\t' then ['\\', 't']
  else if isPrintable character then [character]
  else if character.toNat < 0x100 then
    '\\' :: 'x' :: hexDigits 2 character.toNat
  else if character.toNat < 0x10000 then
    '\\' :: 'u' :: hexDigits 4 character.toNat
  else '\\' :: 'U' :: hexDigits 8 character.toNat

/-- Double quotes are used only where they save an escape. -/
def quoteFor (label : List Char) : Char :=
  if label.contains singleQuote && !label.contains doubleQuote then doubleQuote
  else singleQuote

def quoted (label : String) : String :=
  let quote := quoteFor label.toList
  String.ofList (quote :: label.toList.flatMap (escaped quote) ++ [quote])

/-- A row of labels in parentheses; a row of one keeps its comma. -/
def quotedRow : List String → String
  | [] => "()"
  | [label] => "(" ++ quoted label ++ ",)"
  | labels => "(" ++ ", ".intercalate (labels.map quoted) ++ ")"

end RightLinear.Text
