import Graft.Table

/-!
The values that patches compute with and elements hold.

Two kinds are special to patching: `null` is an explicit nothing, distinct from a missing
key, and `deletion` is a marker that removes the place it is merged into or written over.
Whole numbers are 64-bit signed words, kept apart from doubles. Objects are tables: their
entries keep the order of entry and no key occurs twice.
-/

set_option autoImplicit false

namespace Graft

/-- A value. -/
inductive Value where
  | null
  | deletion
  | bool (b : Bool)
  | int (n : Int64)
  | float (x : Float)
  | string (s : String)
  | list (items : List Value)
  | object (entries : List (String × Value))
  deriving Inhabited, Repr

namespace Value

/-- The name of a value's kind, as messages give it. -/
def typeName : Value → String
  | null => "none"
  | deletion => "deletion"
  | bool _ => "boolean"
  | int _ => "integer"
  | float _ => "float"
  | string _ => "string"
  | list _ => "list"
  | object _ => "object"

/-- Whether a value counts as true where a test does not insist on a boolean. -/
def isTruthy : Value → Bool
  | null => false
  | deletion => false
  | bool b => b
  | int n => n != 0
  | float x => x != 0
  | string s => !s.isEmpty
  | list items => !items.isEmpty
  | object entries => !entries.isEmpty

/-- A number as a double; a whole number is rounded to the nearest. -/
def toFloat? : Value → Option Float
  | int n => some n.toFloat
  | float x => some x
  | _ => none

/-- A whole number; doubles are never narrowed. -/
def toInt? : Value → Option Int64
  | int n => some n
  | _ => none

/-- A text. -/
def toText? : Value → Option String
  | string s => some s
  | _ => none

/-- The removal marker itself, not a value that contains it. -/
def isDeletion : Value → Bool
  | deletion => true
  | _ => false

/-- Lists and objects. -/
def isContainer : Value → Bool
  | list _ => true
  | object _ => true
  | _ => false

/-! ## Structural equality -/

mutual

/-- Equality of structure. Whole numbers and doubles are different kinds here; doubles
compare as numbers, so that a not-a-number differs from itself; the entries of objects are
compared by key, in whatever order they stand. -/
def same : Value → Value → Bool
  | null, null => true
  | deletion, deletion => true
  | bool a, bool b => a == b
  | int a, int b => a == b
  | float a, float b => a == b
  | string a, string b => a == b
  | list a, list b => sameItems a b
  | object a, object b => a.length == b.length && sameEntries a b
  | _, _ => false

/-- Equality of lists, item by item. -/
def sameItems : List Value → List Value → Bool
  | [], [] => true
  | a :: as, b :: bs => same a b && sameItems as bs
  | _, _ => false

/-- Whether every entry of the first table has an equal one in the second. -/
def sameEntries : List (String × Value) → List (String × Value) → Bool
  | [], _ => true
  | (k, v) :: rest, b =>
    (match Table.get? b k with
      | some w => same v w
      | none => false) && sameEntries rest b

end

/-! ## Removal markers inside a value -/

mutual

/-- The value without the removal markers inside it: entries and items that are markers
are dropped, at every depth. A bare marker is kept, since it names a place that only the
holder of the value can remove. -/
def withoutDeletions : Value → Value
  | list items => list (itemsWithoutDeletions items)
  | object entries => object (entriesWithoutDeletions entries)
  | v => v

/-- The items that are no markers, without the markers inside them. -/
def itemsWithoutDeletions : List Value → List Value
  | [] => []
  | v :: rest =>
    if v.isDeletion then itemsWithoutDeletions rest
    else withoutDeletions v :: itemsWithoutDeletions rest

/-- The entries that are no markers, without the markers inside them. -/
def entriesWithoutDeletions : List (String × Value) → List (String × Value)
  | [] => []
  | (k, v) :: rest =>
    if v.isDeletion then entriesWithoutDeletions rest
    else (k, withoutDeletions v) :: entriesWithoutDeletions rest

end

end Value

end Graft
