import Chip8.Text.Quoted

/-!
The folder that a session reads programs from: files by name, and nothing else. A path is walked
from the folder name by name. What lies outside the folder is not known, so no file is found
there.
-/

namespace Chip8

structure Folder where
  files : List (String × List UInt8)

namespace Folder

inductive Fault where
  | notFound (path : String)
  | notDirectory (path : String)
  | isDirectory (path : String)
  | nameTooLong (path : String)
  /-- A path cannot hold the character of code 0. -/
  | nullCharacter
  deriving DecidableEq, Repr

def Fault.message : Fault → String
  | .notFound path => "[Errno 2] No such file or directory: " ++ Text.quoted path
  | .notDirectory path => "[Errno 20] Not a directory: " ++ Text.quoted path
  | .isDirectory path => "[Errno 21] Is a directory: " ++ Text.quoted path
  | .nameTooLong path => "[Errno 36] File name too long: " ++ Text.quoted path
  | .nullCharacter => "embedded null byte"

/-- A path of so many bytes is too long. -/
def pathLimit : Nat := 4096

/-- The longest name of a file in bytes. -/
def maxNameSize : Nat := 255

/-- Where a walk stands. -/
inductive Place where
  | folder
  /-- A directory outside the folder. -/
  | outside
  | file (content : List UInt8)
  deriving DecidableEq, Repr

/-- One step of a walk: to the directory itself, to the one above, or to a file. -/
def enter (folder : Folder) (path : String) (place : Place) (name : String) :
    Except Fault Place :=
  match place with
  | .file _ => .error (.notDirectory path)
  | .folder | .outside =>
      if name = "" ∨ name = "." then .ok place
      else if name = ".." then .ok .outside
      else if maxNameSize < name.utf8ByteSize then .error (.nameTooLong path)
      else match place, folder.files.lookup name with
        | .folder, some content => .ok (.file content)
        | _, _ => .error (.notFound path)

/-- The content of the file at a path. -/
def read (folder : Folder) (path : String) : Except Fault (List UInt8) := do
  if '\x00' ∈ path.toList then
    throw .nullCharacter
  else if path = "" then
    throw (.notFound path)
  else if pathLimit ≤ path.utf8ByteSize then
    throw (.nameTooLong path)
  else
    let start := if path.toList.head? = some '/' then Place.outside else Place.folder
    match ← (path.splitOn "/").foldlM (folder.enter path) start with
    | .file content => return content
    | .folder | .outside => throw (.isDirectory path)

end Folder

end Chip8
