import Graft.Json.Basic

/-!
TOML documents: their values, and how a document is put together from its lines.

A document is a list of lines in order. A header moves to a table, and entries go to the
table that was moved to last. What has been said once cannot be said again: a key is given
once, a header occurs once, a table in braces is closed for good, and tables that arose
from dotted keys are not reopened by a header.
-/

set_option autoImplicit false

namespace Graft

/-- How a table came into a document. -/
inductive Toml.Origin where
  /-- It stands on the way to a table with a header. -/
  | implied
  | headed
  | dotted
  | braced
  deriving Repr, DecidableEq

/-- A TOML value. -/
inductive Toml where
  | text (s : String)
  | whole (n : Int)
  | array (items : List Toml)
  | table (origin : Toml.Origin) (entries : List (String × Toml))
  /-- Tables under a repeated header. -/
  | series (tables : List (List (String × Toml)))
  /-- A truth value, a number that is not whole, a date or a time. Nothing here is made of
  these. -/
  | other
  deriving Inhabited

namespace Toml

/-- The entries of a table. -/
abbrev Entries := Table Toml

/-- A line of a document, apart from blank ones. -/
inductive Line where
  | header (path : List String)
  | seriesHeader (path : List String)
  | entry (path : List String) (value : Toml)
  deriving Inhabited

/-! ## Putting a document together -/

/-- Adds a value under a dotted key. -/
def addValue? (value : Toml) : (path : List String) → Entries → Option Entries
  | [], _ => none
  | [key], t => if Table.has t key then none else some (Table.insert t key value)
  | key :: rest, t =>
    match Table.get? t key with
    | none => (addValue? value rest []).map fun s => Table.insert t key (.table .dotted s)
    | some (.table .dotted s) =>
      (addValue? value rest s).map fun s => Table.insert t key (.table .dotted s)
    | some _ => none

/-- Changes the table at a path, which leads to the last table of a series. Tables that are
missing on the way are made. -/
def changeAt? (change : Entries → Option Entries) : (path : List String) → Entries → Option Entries
  | [], t => change t
  | key :: rest, t =>
    match Table.get? t key with
    | none => (changeAt? change rest []).map fun s => Table.insert t key (.table .implied s)
    | some (.table .braced _) => none
    | some (.table origin s) =>
      (changeAt? change rest s).map fun s => Table.insert t key (.table origin s)
    | some (.series tables) => do
      let s ← tables.getLast?
      let s ← changeAt? change rest s
      return Table.insert t key (.series (tables.dropLast ++ [s]))
    | some _ => none

/-- Makes the table of a header, or takes it over where it was only implied. -/
def openTable? (key : String) (t : Entries) : Option Entries :=
  match Table.get? t key with
  | none => some (Table.insert t key (.table .headed []))
  | some (.table .implied s) => some (Table.insert t key (.table .headed s))
  | some _ => none

/-- Makes a further table of a series. -/
def openSeries? (key : String) (t : Entries) : Option Entries :=
  match Table.get? t key with
  | none => some (Table.insert t key (.series [[]]))
  | some (.series tables) => some (Table.insert t key (.series (tables ++ [[]])))
  | some _ => none

/-- The document of lines behind the entries that are there, with `current` as the path of
the table that entries go to. -/
def assembleFrom? (current : List String) (t : Entries) : List Line → Option Entries
  | [] => some t
  | .entry path value :: rest => do
    let t ← changeAt? (addValue? value path) current t
    assembleFrom? current t rest
  | .header path :: rest => do
    let key ← path.getLast?
    let t ← changeAt? (openTable? key) path.dropLast t
    assembleFrom? path t rest
  | .seriesHeader path :: rest => do
    let key ← path.getLast?
    let t ← changeAt? (openSeries? key) path.dropLast t
    assembleFrom? path t rest

/-- The document of lines. -/
def assemble? (lines : List Line) : Option Entries :=
  assembleFrom? [] [] lines

/-! ## Documents as JSON -/

mutual

/-- The JSON value that says the same; values of other kinds have none. -/
def toJson : Toml → Json
  | text s => .string s
  | whole n => .int n
  | array items => .array (itemsToJson items)
  | table _ entries => .object (entriesToJson entries)
  | series tables => .array (tablesToJson tables)
  | other => .unreadable

/-- The JSON values of items. -/
def itemsToJson : List Toml → List Json
  | [] => []
  | v :: rest => toJson v :: itemsToJson rest

/-- The members of the JSON object of a table. -/
def entriesToJson : List (String × Toml) → List (String × Json)
  | [] => []
  | (k, v) :: rest => (k, toJson v) :: entriesToJson rest

/-- The JSON objects of tables. -/
def tablesToJson : List (List (String × Toml)) → List Json
  | [] => []
  | t :: rest => .object (entriesToJson t) :: tablesToJson rest

end

end Toml

end Graft
