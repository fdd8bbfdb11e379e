/-!
Sets of characters.

A set is the ascending list of the code points at which membership changes: the
characters from the first boundary up to, but not including, the second belong to it,
those from the third up to the fourth, and so on. A character belongs to the set when
an odd number of boundaries are at or below it, which a binary search counts. Two sets
are combined by one walk along the boundaries of both, which asks at each of them whether
the combination changes.
-/

set_option autoImplicit false

namespace Graft

/-- A set of characters, by the code points at which membership changes. -/
structure CharSet where
  bounds : Array Nat
  deriving Repr, Inhabited, DecidableEq

namespace CharSet

/-! ## Membership -/

/-- The number of boundaries at or below `x`, searched in `[lo, hi)`; every step halves
the interval, so `steps` is an upper bound of the binary logarithm of its length. -/
def rankWithin (bounds : Array Nat) (x : Nat) : (steps lo hi : Nat) → Nat
  | 0, lo, _ => lo
  | steps + 1, lo, hi =>
    if lo < hi then
      let mid := (lo + hi) / 2
      if bounds.getD mid 0 ≤ x then rankWithin bounds x steps (mid + 1) hi
      else rankWithin bounds x steps lo mid
    else lo

/-- Membership of a code point. -/
def containsCode (s : CharSet) (x : Nat) : Bool :=
  rankWithin s.bounds x 32 0 s.bounds.size % 2 == 1

/-- Membership of a character. -/
def contains (s : CharSet) (c : Char) : Bool :=
  s.containsCode c.toNat

/-! ## Ranges -/

/-- The boundaries of ascending ranges, each up to but not including its second part. -/
def boundsOfRanges : List (Nat × Nat) → List Nat
  | [] => []
  | (first, next) :: rest =>
    match boundsOfRanges rest with
    | bound :: bounds => if bound = next then first :: bounds else first :: next :: bound :: bounds
    | [] => [first, next]

/-- The set of ascending ranges, each up to but not including its second part. -/
def ofRanges (ranges : List (Nat × Nat)) : CharSet :=
  ⟨(boundsOfRanges ranges).toArray⟩

/-- The ranges between boundaries. -/
def rangesOfBounds : List Nat → List (Nat × Nat)
  | first :: next :: rest => (first, next) :: rangesOfBounds rest
  | _ => []

/-- The ranges of a set in ascending order, each up to but not including its second part. -/
def ranges (s : CharSet) : List (Nat × Nat) :=
  rangesOfBounds s.bounds.toList

/-! ## Combinations -/

/-- A boundary before others, if it is one. -/
def consIf (changes : Bool) (x : Nat) (rest : List Nat) : List Nat :=
  if changes then x :: rest else rest

/-- The boundaries of a combination of two sets, where `a` and `b` say whether what lies
before the given boundaries belongs to them. -/
def combineFrom (op : Bool → Bool → Bool) (a b : Bool) : List Nat → List Nat → List Nat
  | [], [] => []
  | x :: xs, [] => consIf (op a b != op (!a) b) x (combineFrom op (!a) b xs [])
  | [], y :: ys => consIf (op a b != op a (!b)) y (combineFrom op a (!b) [] ys)
  | x :: xs, y :: ys =>
    if x < y then consIf (op a b != op (!a) b) x (combineFrom op (!a) b xs (y :: ys))
    else if y < x then consIf (op a b != op a (!b)) y (combineFrom op a (!b) (x :: xs) ys)
    else consIf (op a b != op (!a) (!b)) x (combineFrom op (!a) (!b) xs ys)
termination_by xs ys => xs.length + ys.length

/-- The combination of two sets by an operation on membership, which holds of nothing that
is in neither of them. -/
def combine (op : Bool → Bool → Bool) (s t : CharSet) : CharSet :=
  ⟨(combineFrom op false false s.bounds.toList t.bounds.toList).toArray⟩

/-- The empty set. -/
def nothing : CharSet := ⟨#[]⟩

/-- All characters: code points other than surrogates. -/
def all : CharSet := ⟨#[0, 0xd800, 0xe000, 0x110000]⟩

/-- What is in one of two sets or in both. -/
def union : CharSet → CharSet → CharSet :=
  combine fun a b => a || b

/-- What is in both of two sets. -/
def inter : CharSet → CharSet → CharSet :=
  combine fun a b => a && b

/-- What is in the first of two sets only. -/
def diff : CharSet → CharSet → CharSet :=
  combine fun a b => a && !b

/-- What is in exactly one of two sets. -/
def symmDiff : CharSet → CharSet → CharSet :=
  combine fun a b => a != b

/-- The characters that are not in a set. -/
def complement (s : CharSet) : CharSet :=
  all.diff s

/-- What is in one of several sets. -/
def unions : List CharSet → CharSet
  | [] => nothing
  | s :: rest => s.union (unions rest)

/-- The characters from one code point to another. -/
def range (first last : Nat) : CharSet :=
  all.inter ⟨#[first, last + 1]⟩

/-- The set of one character. -/
def char (c : Char) : CharSet :=
  ⟨#[c.toNat, c.toNat + 1]⟩

/-- The union of ranges between characters. -/
def ofSpans (spans : List (Char × Char)) : CharSet :=
  unions (spans.map fun (first, last) => range first.toNat last.toNat)

/-- The characters of ASCII. -/
def ascii : CharSet := ⟨#[0, 0x80]⟩

/-- Whether nothing belongs to a set. -/
def isNothing (s : CharSet) : Bool :=
  s.bounds.isEmpty

/-- Whether only characters of ASCII belong to a set. -/
def isAscii (s : CharSet) : Bool :=
  s.bounds.all (· ≤ 0x80)

/-- The only character of a set. -/
def single? (s : CharSet) : Option Char :=
  match s.bounds.toList with
  | [first, next] => if next = first + 1 then some (Char.ofNat first) else none
  | _ => none

example : (CharSet.mk #[10, 20, 30, 31]).containsCode 9 = false := by decide
example : (CharSet.mk #[10, 20, 30, 31]).containsCode 19 = true := by decide
example : (CharSet.mk #[10, 20, 30, 31]).containsCode 20 = false := by decide
example : (CharSet.mk #[10, 20, 30, 31]).containsCode 30 = true := by decide
example : CharSet.union ⟨#[1, 4]⟩ ⟨#[4, 9]⟩ = ⟨#[1, 9]⟩ := by decide +kernel
example : CharSet.diff ⟨#[1, 9]⟩ ⟨#[4, 5]⟩ = ⟨#[1, 4, 5, 9]⟩ := by decide +kernel

end CharSet

end Graft
