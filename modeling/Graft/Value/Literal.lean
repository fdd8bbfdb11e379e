import Graft.Value.Basic
import Graft.Number.FloatText
import Graft.Text.Letter
import Graft.Text.Quoted

/-!
Values in the notation of patches.

`literal` writes a value on one line, `literalPretty` with one part a line and two spaces
for every level. Keys that look like names are written bare, all others are quoted; a
double always shows a fraction, so that it reads back as a double.
-/

set_option autoImplicit false

namespace Graft

/-- A key that may stand without quotes: a letter or underscore, then letters, numerals
and underscores. -/
def isBareKey (key : List Char) : Bool :=
  match key with
  | [] => false
  | c :: rest =>
    (Text.isLetter c || c = '_') &&
      rest.all fun d => Text.isLetter d || Text.isNumeral d || d = '_'

/-- A key as it is written. -/
def literalKey (key : String) : String :=
  if isBareKey key.toList then key else Text.quote key

namespace Value

/-- The line break and indentation before a part, in the pretty form. -/
def lineBreak (pretty : Bool) (level : Nat) : String :=
  if pretty then "\n" ++ String.ofList (List.replicate (2 * level) ' ') else ""

/-- What stands between two parts. -/
def separator (pretty : Bool) (level : Nat) : String :=
  if pretty then "," ++ lineBreak pretty level else ", "

/-- Parts between brackets, `level` deep. -/
def bracketed (pretty : Bool) (level : Nat) (opening closing : String) (parts : List String) :
    String :=
  if parts.isEmpty then opening ++ closing
  else
    opening ++ lineBreak pretty (level + 1) ++
      String.intercalate (separator pretty (level + 1)) parts ++
      lineBreak pretty level ++ closing

mutual

/-- A value written `level` deep. -/
def render (pretty : Bool) (level : Nat) : Value → String
  | null => "null"
  | deletion => "@delete"
  | bool b => if b then "true" else "false"
  | int n => Numeral.signedDecimal n.toInt
  | float x => FloatFormat.literal.text x
  | string s => Text.quote s
  | list items => bracketed pretty level "[" "]" (renderItems pretty (level + 1) items)
  | object entries =>
    bracketed pretty level "\x7b" "\x7d" (renderEntries pretty (level + 1) entries)

/-- Items, each written `level` deep. -/
def renderItems (pretty : Bool) (level : Nat) : List Value → List String
  | [] => []
  | v :: rest => render pretty level v :: renderItems pretty level rest

/-- Entries, each written `level` deep. -/
def renderEntries (pretty : Bool) (level : Nat) : List (String × Value) → List String
  | [] => []
  | (k, v) :: rest =>
    (literalKey k ++ ": " ++ render pretty level v) :: renderEntries pretty level rest

end

/-- A value on one line. -/
def literal (v : Value) : String :=
  render false 0 v

/-- A value with one part a line. -/
def literalPretty (v : Value) : String :=
  render true 0 v

example : (object [("thrust", float 2), ("display name", string "E1")]).literal =
    "\x7bthrust: 2.0, \"display name\": \"E1\"\x7d" := by decide +kernel

end Value

end Graft
