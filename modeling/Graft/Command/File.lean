import Graft.Number.Numeral
import Graft.Table

/-!
Files: why one cannot be read, and where a path leads in a folder of files.

Sessions take their files from a function. The program reads the disk; a folder of files, read
from the same paths with the same failures, stands for the disk where a session is computed
instead of run.

A path is followed name by name. A folder holds files only. Of what lies outside of it,
only the usual folders at the root of all paths are known, and the device without content.
-/

set_option autoImplicit false

namespace Graft.Command

/-- Why a file cannot be read. -/
inductive ReadFailure where
  | noFile
  | denied
  | notFolder
  | folder
  | nameTooLong
  | notText
  deriving Repr, DecidableEq

namespace ReadFailure

/-- The failures that the system reports by a number, with these numbers. -/
def numbers : List (Nat × ReadFailure) :=
  [(2, noFile), (13, denied), (20, notFolder), (21, folder), (36, nameTooLong)]

/-- The failure that the system reports by a number. -/
def ofNumber? (n : Nat) : Option ReadFailure :=
  (numbers.find? fun entry => entry.1 = n).map Prod.snd

/-- The failure in words. -/
def words : ReadFailure → String
  | noFile => "No such file or directory"
  | denied => "Permission denied"
  | notFolder => "Not a directory"
  | folder => "Is a directory"
  | nameTooLong => "File name too long"
  | notText => "stream did not contain valid UTF-8"

/-- The failure in words, with its number if it has one. -/
def message (f : ReadFailure) : String :=
  match numbers.find? fun entry => entry.2 = f with
  | some (n, _) => f.words ++ " (os error " ++ Numeral.decimal n ++ ")"
  | none => f.words

end ReadFailure

/-- A folder of files, by their names. -/
abbrev Folder := Table String

namespace Folder

/-- Where one can be on a path. -/
inductive Place where
  /-- In the folder itself. -/
  | inside
  /-- At the root of all paths. -/
  | root
  /-- In the folder of devices. -/
  | devices
  /-- In another folder. -/
  | elsewhere
  | file (text : String)
  deriving Repr, DecidableEq

/-- The length in bytes that a name can have. -/
def longestName : Nat := 255

/-- The length in bytes that a path can have. -/
def longestPath : Nat := 4095

/-- The folders at the root of all paths, apart from that of devices. -/
def rootFolders : List String :=
  ["bin", "boot", "etc", "home", "lib", "lib64", "media", "mnt", "opt", "proc", "root", "run",
    "sbin", "srv", "sys", "tmp", "usr", "var"]

/-- What a name leads to in a place. -/
def find? (f : Folder) (place : Place) (name : String) : Option Place :=
  match place with
  | .inside => (Table.get? f name).map .file
  | .root =>
    if name = "dev" then some .devices
    else if rootFolders.contains name then some .elsewhere
    else none
  | .devices => if name = "null" then some (.file "") else none
  | _ => none

/-- The place around a place. -/
def Place.outer : Place → Place
  | .root => .root
  | .devices => .root
  | _ => .elsewhere

/-- Follows one name of a path. An empty name and a dot stay where they are, and two dots
lead outward. -/
def follow (f : Folder) (place : Place) (name : String) : Except ReadFailure Place :=
  match place with
  | .file _ => .error .notFolder
  | place =>
    if name = "" || name = "." then .ok place
    else if name = ".." then .ok place.outer
    else if longestName < name.utf8ByteSize then .error .nameTooLong
    else match f.find? place name with
      | some next => .ok next
      | none => .error .noFile

/-- Follows the names of a path. -/
def followAll (f : Folder) (place : Place) : List String → Except ReadFailure Place
  | [] => .ok place
  | name :: rest => do followAll f (← follow f place name) rest

/-- The text of the file that a path leads to. A path that begins with a slash begins at the
root. -/
def read (f : Folder) (path : String) : Except ReadFailure String := do
  if path.isEmpty then .error .noFile
  if longestPath < path.utf8ByteSize then .error .nameTooLong
  let names := path.splitOn "/"
  match ← followAll f (if names.head? = some "" then .root else .inside) names with
  | .file text => .ok text
  | _ => .error .folder

end Folder

end Graft.Command
