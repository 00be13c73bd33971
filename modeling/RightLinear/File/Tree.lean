import RightLinear.File.Basic
import RightLinear.Text.Split

/-! Files in memory: a working directory with files and directories below it.
The directories around it can be entered, but they hold nothing to read. -/

namespace RightLinear

open Text

/-- Every file under the names that lead to it from the working directory. -/
structure FileTree where
  files : List (List String × List UInt8)

namespace FileTree

/-- A directory: the one that some names lead to from the working directory, or
one around the working directory. -/
inductive Place where
  | below (names : List String)
  | outside
  deriving DecidableEq

def Place.parent : Place → Place
  | below [] => outside
  | below names => below names.dropLast
  | outside => outside

def components (path : String) : List String :=
  (splitWhere (· == '/') path.toList).map String.ofList

private def isStep (component : String) : Bool :=
  component != "" && component != "."

def empty : FileTree := ⟨[]⟩

/-- A later file of one name replaces the earlier one. -/
def add (path : String) (content : List UInt8) (tree : FileTree) : FileTree :=
  let names := (components path).filter isStep
  ⟨(names, content) :: tree.files⟩

/-- Only directories on the way to a file exist. -/
def isDirectory (tree : FileTree) (names : List String) : Bool :=
  tree.files.any fun (file, _) =>
    names.isPrefixOf file && names.length < file.length

def nameLimit : Nat := 255

def pathLimit : Nat := 4095

/-- What one name stands for in a directory, if it is followed by `rest`. -/
def entry (tree : FileTree) (path : String) (names : List String)
    (rest : List String) : Except FileError (List UInt8) :=
  match tree.files.lookup names, rest with
  | some content, [] => .ok content
  | some _, _ :: _ => .error (.notDirectory path)
  | none, _ => .error (.notFound path)

/-- Follows the components of `path` from a directory. -/
def find (tree : FileTree) (path : String) :
    Place → List String → Except FileError (List UInt8)
  | _, [] => .error (.isDirectory path)
  | place, component :: rest =>
      if component = "" ∨ component = "." then tree.find path place rest
      else if component = ".." then tree.find path place.parent rest
      else if nameLimit < component.utf8ByteSize then
        .error (.nameTooLong path)
      else
        match place with
        | .outside => .error (.notFound path)
        | .below names =>
            if tree.isDirectory (names ++ [component]) then
              tree.find path (.below (names ++ [component])) rest
            else tree.entry path (names ++ [component]) rest

/-- A path that begins with a slash does not begin at the working directory. -/
def origin (path : String) : Place :=
  if path.toList.head? == some '/' then .outside else .below []

def bytes (tree : FileTree) (path : String) : Except FileError (List UInt8) :=
  if path.contains (Char.ofNat 0) then .error .nullCharacter
  else if path = "" then .error (.notFound path)
  else if pathLimit < path.utf8ByteSize then .error (.nameTooLong path)
  else tree.find path (origin path) (components path)

def fileSystem (tree : FileTree) : FileSystem := ⟨tree.bytes⟩

end FileTree

end RightLinear
