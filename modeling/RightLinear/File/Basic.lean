import RightLinear.Text.Quoted
import RightLinear.Text.Utf8

/-! Reading text files, from whatever holds them. -/

namespace RightLinear

open Text

inductive FileError where
  | notFound (path : String)
  | isDirectory (path : String)
  | notDirectory (path : String)
  | nameTooLong (path : String)
  | nullCharacter
  | undecodable (error : Utf8.DecodeError)
  deriving DecidableEq

namespace FileError

private def numbered (number : Nat) (text path : String) : String :=
  "[Errno " ++ toString number ++ "] " ++ text ++ ": " ++ quoted path

def message : FileError → String
  | notFound path => numbered 2 "No such file or directory" path
  | notDirectory path => numbered 20 "Not a directory" path
  | isDirectory path => numbered 21 "Is a directory" path
  | nameTooLong path => numbered 36 "File name too long" path
  | nullCharacter => "embedded null byte"
  | undecodable error => error.message

end FileError

/-- What is found under each path. -/
structure FileSystem where
  bytes : String → Except FileError (List UInt8)

def FileSystem.text (files : FileSystem) (path : String) :
    Except FileError String := do
  let bytes ← files.bytes path
  let decoded ← (Utf8.decode bytes).mapError .undecodable
  return String.ofList (withLineFeeds decoded)

/-- The name of a file without its directories and its last extension. -/
def fileStem (path : String) : String :=
  let name := path.toList.reverse.takeWhile (· != '/')
  match name.dropWhile (· != '.') with
  | _ :: stem => String.ofList stem.reverse
  | [] => String.ofList name.reverse

end RightLinear
