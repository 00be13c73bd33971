import RightLinear.Text.Alphanumeric
import RightLinear.Text.Split

/-! Texts in sections.  A section begins with a line that holds its name and a
colon; keywords of the definitions are no names. -/

namespace RightLinear.Collection

open Text

structure Section where
  name : String
  body : List Char
  deriving DecidableEq

def reservedNames : List String :=
  ["PRODUCTIONS", "START", "states", "alphabet", "start", "accept"]

def isSectionName : List Char → Bool
  | [] => false
  | first :: rest => first.isAlpha && rest.all isWordCharacter

/-- The name that a header line gives; only blanks may follow its colon. -/
def headerName? (line : List Char) : Option String :=
  let name := line.takeWhile isWordCharacter
  match line.dropWhile isWordCharacter with
  | ':' :: rest =>
      if isSectionName name && rest.all isBlank &&
          !reservedNames.contains (String.ofList name) then
        some (String.ofList name)
      else none
  | _ => none

/-- The lines before the first header, and the lines after each header. -/
def divide :
    List (List Char) → List (List Char) × List (String × List (List Char))
  | [] => ([], [])
  | line :: rest =>
      let (lead, sections) := divide rest
      match headerName? line with
      | some name => ([], (name, lead) :: sections)
      | none => (line :: lead, sections)

def joinLines (lines : List (List Char)) : List Char :=
  ['\n'].intercalate lines

def sections (text : List Char) : List Section :=
  (divide (lines text)).2.map fun (name, body) => ⟨name, trim (joinLines body)⟩

end RightLinear.Collection
