import Graft.Proofs.Table.Order
import Graft.Value.Json

/-!
What values and JSON keep of each other.

JSON can say what no value can hold, such as a whole number that only fits an unsigned word,
and values can hold what JSON cannot say, such as a removal marker. Between what both can say
the two readings are inverse to each other: a value read from JSON is written as it was read,
and a value written as JSON is read as it was, whole numbers as whole numbers and doubles as
doubles.
-/

set_option autoImplicit false

namespace Graft

mutual

/-- JSON that values hold without loss: it is readable, its whole numbers are signed words, its
doubles are finite, and no object repeats a key. -/
def Json.Exact : Json → Prop
  | .null => True
  | .bool _ => True
  | .int n => Numeral.isSigned n = true
  | .float x => x.isFinite = true
  | .string _ => True
  | .array items => Json.ExactItems items
  | .object members => Table.Distinct members ∧ Json.ExactMembers members
  | .unreadable => False

/-- The same of all items. -/
def Json.ExactItems : List Json → Prop
  | [] => True
  | j :: rest => j.Exact ∧ Json.ExactItems rest

/-- The same of what all members hold. -/
def Json.ExactMembers : List (String × Json) → Prop
  | [] => True
  | (_, j) :: rest => j.Exact ∧ Json.ExactMembers rest

end

mutual

/-- A value that JSON says without loss: no removal marker occurs in it, its doubles are finite,
and its objects are tables, in which no key is entered twice. -/
def Value.Exact : Value → Prop
  | .null => True
  | .deletion => False
  | .bool _ => True
  | .int _ => True
  | .float x => x.isFinite = true
  | .string _ => True
  | .list items => Value.ExactItems items
  | .object entries => Table.Distinct entries ∧ Value.ExactEntries entries

/-- The same of all items. -/
def Value.ExactItems : List Value → Prop
  | [] => True
  | v :: rest => v.Exact ∧ Value.ExactItems rest

/-- The same of all that is entered. -/
def Value.ExactEntries : List (String × Value) → Prop
  | [] => True
  | (_, v) :: rest => v.Exact ∧ Value.ExactEntries rest

end

namespace Value

/-- Reading the members of an object keeps their keys. -/
theorem names_membersOfJson (members : List (String × Json)) :
    Table.names (membersOfJson members) = Table.names members := by
  induction members with
  | nil => rfl
  | cons member rest ih => exact congrArg (member.1 :: ·) ih

/-! ## From JSON and back -/

mutual

/-- What is read from JSON is written as it was read. -/
theorem toJson_ofJson : ∀ {j : Json}, j.Exact → (ofJson j).toJson = j
  | .null, _ => rfl
  | .bool _, _ => rfl
  | .int n, hn => by
    rw [Json.Exact, Numeral.isSigned, Bool.and_eq_true, decide_eq_true_eq,
      decide_eq_true_eq] at hn
    rw [ofJson, if_pos hn.2, toJson, Int64.toInt_ofInt_of_le hn.1 hn.2]
  | .float x, hx => by
    rw [Json.Exact] at hx
    rw [ofJson, toJson, if_pos hx]
  | .string _, _ => rfl
  | .array items, hitems => by
    rw [Json.Exact] at hitems
    rw [ofJson, toJson, itemsToJson_itemsOfJson hitems]
  | .object members, hmembers => by
    rw [Json.Exact] at hmembers
    have hdistinct : Table.Distinct (membersOfJson members) := by
      rw [Table.Distinct, names_membersOfJson]
      exact hmembers.1
    rw [ofJson, Table.ofPairs_of_distinct hdistinct, toJson, entriesToJson_membersOfJson hmembers.2]
  | .unreadable, h => by
    rw [Json.Exact] at h
    exact h.elim

theorem itemsToJson_itemsOfJson : ∀ {items : List Json}, Json.ExactItems items →
    itemsToJson (itemsOfJson items) = items
  | [], _ => rfl
  | j :: rest, h => by
    rw [Json.ExactItems] at h
    rw [itemsOfJson, itemsToJson, toJson_ofJson h.1, itemsToJson_itemsOfJson h.2]

theorem entriesToJson_membersOfJson : ∀ {members : List (String × Json)},
    Json.ExactMembers members → entriesToJson (membersOfJson members) = members
  | [], _ => rfl
  | (k, j) :: rest, h => by
    rw [Json.ExactMembers] at h
    rw [membersOfJson, entriesToJson, toJson_ofJson h.1, entriesToJson_membersOfJson h.2]

end

/-! ## To JSON and back -/

mutual

/-- What is written as JSON is read as it was. -/
theorem ofJson_toJson : ∀ {v : Value}, v.Exact → ofJson v.toJson = v
  | .null, _ => rfl
  | .deletion, h => by
    rw [Exact] at h
    exact h.elim
  | .bool _, _ => rfl
  | .int n, _ => by
    have hhigh : n.toInt < Numeral.signedBound := n.toInt_lt
    rw [toJson, ofJson, if_pos hhigh, Int64.ofInt_toInt]
  | .float x, hx => by
    rw [Exact] at hx
    rw [toJson, if_pos hx, ofJson]
  | .string _, _ => rfl
  | .list items, hitems => by
    rw [Exact] at hitems
    rw [toJson, ofJson, itemsOfJson_itemsToJson hitems]
  | .object entries, hentries => by
    rw [Exact] at hentries
    rw [toJson, ofJson, membersOfJson_entriesToJson hentries.2,
      Table.ofPairs_of_distinct hentries.1]

theorem itemsOfJson_itemsToJson : ∀ {items : List Value}, ExactItems items →
    itemsOfJson (itemsToJson items) = items
  | [], _ => rfl
  | v :: rest, h => by
    rw [ExactItems] at h
    rw [itemsToJson, itemsOfJson, ofJson_toJson h.1, itemsOfJson_itemsToJson h.2]

theorem membersOfJson_entriesToJson : ∀ {entries : List (String × Value)},
    ExactEntries entries → membersOfJson (entriesToJson entries) = entries
  | [], _ => rfl
  | (k, v) :: rest, h => by
    rw [ExactEntries] at h
    rw [entriesToJson, membersOfJson, ofJson_toJson h.1, membersOfJson_entriesToJson h.2]

end

end Value

end Graft
