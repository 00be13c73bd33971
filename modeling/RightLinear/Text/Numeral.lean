import RightLinear.Text.DecimalDigit
import RightLinear.Text.Quoted
import RightLinear.Text.Split

/-! Whole numbers as a user types them: an optional sign, then decimal digits
of any script, with single underscores between them. -/

namespace RightLinear.Text

inductive NumeralError where
  | malformed (text : String)
  | tooManyDigits (count : Nat)
  deriving DecidableEq

def digitLimit : Nat := 4300

/-- At most this many characters of a quoted malformed numeral are shown. -/
def shownLength : Nat := 200

def NumeralError.message : NumeralError → String
  | .malformed text =>
      "invalid literal for int() with base 10: " ++
        String.ofList ((quoted text).toList.take shownLength)
  | .tooManyDigits count =>
      "Exceeds the limit (" ++ toString digitLimit ++
        " digits) for integer string conversion: value has " ++
        toString count ++
        " digits; use sys.set_int_max_str_digits() to increase the limit"

private def isNumeralCharacter (character : Char) : Bool :=
  isDecimalDigit character || character == '_'

/-- Underscores stand only between two digits. -/
def wellSpaced (body : List Char) : Bool :=
  (splitWhere (· == '_') body).all (!·.isEmpty)

def readMagnitude (text : String) (body : List Char) :
    Except NumeralError Nat :=
  let digits := (body.takeWhile isNumeralCharacter).filterMap digitValue?
  if !wellSpaced (body.takeWhile isNumeralCharacter) then
    .error (.malformed text)
  else if digitLimit < digits.length then
    .error (.tooManyDigits digits.length)
  else if !(body.dropWhile isNumeralCharacter).isEmpty then
    .error (.malformed text)
  else .ok (digits.foldl (fun value digit => 10 * value + digit) 0)

def readInteger (text : String) : Except NumeralError Int :=
  match text.toList with
  | '-' :: body => (readMagnitude text body).map fun value => -(value : Int)
  | '+' :: body => (readMagnitude text body).map Int.ofNat
  | body => (readMagnitude text body).map Int.ofNat

end RightLinear.Text
