/-
Files, how reading one can fail, and folders that hold them.

A path is walked name by name from the folder.  A name on the way has to be a folder, which
is one because some file lies in it; what is above the folder is never looked into.
-/
import Lookout.Text.Utf8

namespace Lookout

/-- Why a file cannot be read. -/
inductive FileError where
  | missing
  | isFolder
  /-- A name on the way to it is a file. -/
  | notFolder
  | denied
  /-- It does not hold text. -/
  | notText
deriving DecidableEq, Repr

/-- The reason in words. -/
def FileError.reason : FileError → String
  | missing => "No such file or directory (os error 2)"
  | isFolder => "Is a directory (os error 21)"
  | notFolder => "Not a directory (os error 20)"
  | denied => "Permission denied (os error 13)"
  | notText => "stream did not contain valid UTF-8"

/-- What a file is read for. -/
inductive FileRole where
  | alerts | config | helpers
deriving DecidableEq, Repr

/-- The name of a role. -/
def FileRole.name : FileRole → String
  | alerts => "alert file"
  | config => "config file"
  | helpers => "init script"

/-- A file that cannot be read. -/
structure FileFailure where
  role : FileRole
  path : String
  error : FileError
deriving DecidableEq, Repr

/-- The failure in words. -/
def FileFailure.reason (f : FileFailure) : String :=
  "failed to read " ++ f.role.name ++ " '" ++ f.path ++ "': " ++ f.error.reason

/-- How files are read: the text at a path. -/
abbrev FileReader (m : Type → Type) : Type :=
  String → m (Except FileError String)

/-- A file read for some purpose. -/
def FileReader.readFor {m : Type → Type} [Monad m] (files : FileReader m) (role : FileRole)
    (path : String) : m (Except FileFailure String) := do
  return (← files path).mapError fun e => ⟨role, path, e⟩

/-- A folder: the bytes of the files in it, each under the names on the way to it. -/
structure Folder where
  files : List (List String × List Nat)

namespace Folder

/-- The parts of a text between slashes. -/
def pathParts (cs : List Char) : List String :=
  (cs.splitOn '/').map String.ofList

/-- The folder of files with the given paths. -/
def ofPaths (files : List (String × List Nat)) : Folder :=
  ⟨files.map fun (path, bytes) => ((pathParts path.toList).filter (· ≠ ""), bytes)⟩

/-- The bytes of the file at some names. -/
def bytes? (f : Folder) (names : List String) : Option (List Nat) :=
  f.files.lookup names

/-- Whether some names lead to a folder. -/
def isFolder (f : Folder) (names : List String) : Bool :=
  names.isEmpty || f.files.any fun file => names.isPrefixOf file.1 && file.1 ≠ names

/-- What some names, walked from a folder on, lead to. -/
def walk (f : Folder) (here : List String) : List String → Except FileError (List String)
  | [] => .ok here
  | name :: names =>
    if (f.bytes? here).isSome then .error .notFolder
    else if !f.isFolder here then .error .missing
    else if name = "" || name = "." then walk f here names
    else if name = ".." then
      if here.isEmpty then .error (if names.isEmpty then .isFolder else .missing)
      else walk f here.dropLast names
    else walk f (here ++ [name]) names

/-- The text of the file at a path. -/
def read (f : Folder) (path : String) : Except FileError String := do
  let parts := pathParts path.toList
  if path.isEmpty then .error .missing
  else if parts.head? = some "" then
    .error (if parts.all (· = "") then .isFolder else .missing)
  else do
    let names ← f.walk [] parts
    if f.isFolder names then .error .isFolder
    else match f.bytes? names with
      | none => .error .missing
      | some bytes =>
        match decodeUtf8? bytes with
        | some text => .ok text
        | none => .error .notText

end Folder

end Lookout
