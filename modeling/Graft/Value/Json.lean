import Graft.Value.Basic
import Graft.Json.Basic
import Graft.Number.Binary64
import Graft.Number.Numeral

/-!
Values as JSON.

JSON has no removal marker and no numbers without digits, so a marker, an infinity and a
not-a-number become null; everything else survives. In the other direction a whole number
in the range of signed words stays whole and any other number becomes a double. A key that
is repeated in an object keeps its first place and takes its last value.
-/

set_option autoImplicit false

namespace Graft

mutual

/-- The JSON form of a value. -/
def Value.toJson : Value → Json
  | .null => .null
  | .deletion => .null
  | .bool b => .bool b
  | .int n => .int n.toInt
  | .float x => if x.isFinite then .float x else .null
  | .string s => .string s
  | .list items => .array (Value.itemsToJson items)
  | .object entries => .object (Value.entriesToJson entries)

/-- The JSON forms of items. -/
def Value.itemsToJson : List Value → List Json
  | [] => []
  | v :: rest => v.toJson :: Value.itemsToJson rest

/-- The JSON forms of entries. -/
def Value.entriesToJson : List (String × Value) → List (String × Json)
  | [] => []
  | (k, v) :: rest => (k, v.toJson) :: Value.entriesToJson rest

end

mutual

/-- The value of a JSON value. -/
def Value.ofJson : Json → Value
  | .null => .null
  | .bool b => .bool b
  | .int n =>
    if n < Numeral.signedBound then .int (Int64.ofInt n) else .float (Binary64.ofInt n)
  | .float x => .float x
  | .string s => .string s
  | .array items => .list (Value.itemsOfJson items)
  | .object members => .object (Table.ofPairs (Value.membersOfJson members))
  | .unreadable => .null

/-- The values of items. -/
def Value.itemsOfJson : List Json → List Value
  | [] => []
  | j :: rest => Value.ofJson j :: Value.itemsOfJson rest

/-- The values of members. -/
def Value.membersOfJson : List (String × Json) → List (String × Value)
  | [] => []
  | (k, j) :: rest => (k, Value.ofJson j) :: Value.membersOfJson rest

end

end Graft
