import Graft.Json.Basic
import Graft.Number.FloatText

/-!
Writing JSON texts, on one line or indented by two spaces.

Strings escape quotes, backslashes and the characters below the space, and nothing else.
Empty arrays and objects stay on one line in either form.
-/

set_option autoImplicit false

namespace Graft.Json

/-- A character inside a string. -/
def encodeChar (c : Char) : List Char :=
  if c = '"' then ['\\', '"']
  else if c = '\\' then ['\\', '\\']
  else if c = '\n' then ['\\', 'n']
  else if c = '\r' then ['\\', 'r']
  else if c = '\t' then ['\\', 't']
  else if c.toNat = 8 then ['\\', 'b']
  else if c.toNat = 12 then ['\\', 'f']
  else if c.toNat < 0x20 then ['\\', 'u'] ++ Numeral.padded 16 4 c.toNat
  else [c]

/-- A string with its quotes. -/
def quote (s : String) : String :=
  String.ofList ('"' :: (s.toList.flatMap encodeChar ++ ['"']))

/-- The line break and indentation before a part, in the indented form. -/
def lineBreak (pretty : Bool) (level : Nat) : String :=
  if pretty then "\n" ++ String.ofList (List.replicate (2 * level) ' ') else ""

/-- Parts between brackets, `level` deep. -/
def bracketed (pretty : Bool) (level : Nat) (opening closing : String) (parts : List String) :
    String :=
  match parts with
  | [] => opening ++ closing
  | first :: rest =>
    let open_ := opening ++ lineBreak pretty (level + 1) ++ first
    rest.foldl (fun acc part => acc ++ "," ++ lineBreak pretty (level + 1) ++ part) open_
      ++ lineBreak pretty level ++ closing

mutual

/-- The text of a value that stands `level` deep. A number that JSON cannot write, and an
unreadable value, is null. -/
def render (pretty : Bool) (level : Nat) : Json → String
  | null => "null"
  | bool b => if b then "true" else "false"
  | int n => Numeral.signedDecimal n
  | float x => if x.isFinite then FloatFormat.json.text x else "null"
  | string s => quote s
  | array items => bracketed pretty level "[" "]" (renderItems pretty (level + 1) items)
  | object members =>
    bracketed pretty level "\x7b" "\x7d" (renderMembers pretty (level + 1) members)
  | unreadable => "null"

/-- The texts of items. -/
def renderItems (pretty : Bool) (level : Nat) : List Json → List String
  | [] => []
  | j :: rest => render pretty level j :: renderItems pretty level rest

/-- The texts of members. -/
def renderMembers (pretty : Bool) (level : Nat) : List (String × Json) → List String
  | [] => []
  | (k, j) :: rest =>
    (quote k ++ (if pretty then ": " else ":") ++ render pretty level j) ::
      renderMembers pretty level rest

end

/-- The text of a value on one line. -/
def compact (j : Json) : String :=
  render false 0 j

/-- The text of a value with one part a line. -/
def indented (j : Json) : String :=
  render true 0 j

end Graft.Json
