import Graft.Table

/-!
JSON values as documents spell them.

The members of an object keep their order, and a repeated key stays repeated: what a
repetition means is up to the reader of the object. Whole numbers and doubles are kept
apart. Some texts are well-formed and still denote nothing here: numbers too large for a
double, escapes of half a surrogate pair, nesting beyond 127 levels. They are
`unreadable`, so that a reader can skip them where it would skip any value; everywhere else
a document has to be readable throughout.
-/

set_option autoImplicit false

namespace Graft

/-- A JSON value. -/
inductive Json where
  | null
  | bool (b : Bool)
  /-- A number without point and exponent, in the range of 64-bit words, signed below zero
  and unsigned above. -/
  | int (n : Int)
  | float (x : Float)
  | string (s : String)
  | array (items : List Json)
  | object (members : List (String × Json))
  /-- A well-formed text that denotes no value. -/
  | unreadable
  deriving Inhabited, Repr

namespace Json

/-- The number of nested arrays and objects that are read. -/
def maxDepth : Nat := 127

mutual

/-- Whether a value has no unreadable part and nests at most `depth` deep. -/
def readable (depth : Nat) : Json → Bool
  | unreadable => false
  | array items => 0 < depth && readableItems (depth - 1) items
  | object members => 0 < depth && readableMembers (depth - 1) members
  | _ => true

/-- Readability of all items. -/
def readableItems (depth : Nat) : List Json → Bool
  | [] => true
  | j :: rest => readable depth j && readableItems depth rest

/-- Readability of all members. -/
def readableMembers (depth : Nat) : List (String × Json) → Bool
  | [] => true
  | (_, j) :: rest => readable depth j && readableMembers depth rest

end

/-! ## Records

A record is written as an object with known keys, or as an array with the same parts in
order. Unknown keys are skipped; a known key may not be repeated. -/

/-- The value of a key that occurs at most once: `none` if it is repeated. -/
def member? (members : List (String × Json)) (key : String) : Option (Option Json) :=
  match members.filter (·.1 == key) with
  | [] => some none
  | [(_, j)] => some (some j)
  | _ => none

/-- The parts of an object under the given keys, each present or absent. -/
def parts? (keys : List String) : Json → Option (List (Option Json))
  | object members => keys.mapM (member? members)
  | _ => none

/-- The parts of a record: an object, or an array that may end early. -/
def record? (keys : List String) : Json → Option (List (Option Json))
  | array items =>
    if items.length ≤ keys.length then
      some (items.map some ++ List.replicate (keys.length - items.length) none)
    else none
  | j => parts? keys j

/-- One of the given names, by name or by number. -/
def tag? (tags : List String) : Json → Option String
  | string s => if tags.contains s then some s else none
  | int n => if 0 ≤ n then tags[n.toNat]? else none
  | _ => none

/-- One of the given names, alone or as the only key of an object without content. -/
def name? (choices : List String) : Json → Option String
  | string s => if choices.contains s then some s else none
  | object [(key, null)] => if choices.contains key then some key else none
  | object [(key, object [])] => if choices.contains key then some key else none
  | _ => none

/-- A text. -/
def text? : Json → Option String
  | string s => some s
  | _ => none

/-- A truth value. -/
def bool? : Json → Option Bool
  | bool b => some b
  | _ => none

/-- A whole number from zero up. -/
def nat? : Json → Option Nat
  | int n => if 0 ≤ n then some n.toNat else none
  | _ => none

/-- The items of an array. -/
def items? : Json → Option (List Json)
  | array items => some items
  | _ => none

/-- An optional part: absent and null are the same. -/
def optional? {α : Type} (read : Json → Option α) : Option Json → Option (Option α)
  | none => some none
  | some null => some none
  | some j => (read j).map some

/-- A part with a value to stand for it where it is absent. -/
def default? {α : Type} (standIn : α) (read : Json → Option α) : Option Json → Option α
  | none => some standIn
  | some j => read j

end Json

end Graft
