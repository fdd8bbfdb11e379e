import Graft.Pattern.Look

/-!
Patterns.

Patterns are put together by functions that leave out what changes nothing: the empty
pattern in a sequence, and repetitions of what has no width beyond the first.
-/

set_option autoImplicit false

namespace Graft

/-- A pattern. -/
inductive Pattern where
  | empty
  | one (c : CharSet)
  | look (l : Look)
  /-- A group whose text can be asked for. -/
  | group (a : Pattern)
  | seq (a b : Pattern)
  | alt (a b : Pattern)
  /-- The pattern `least` times at least and `most` times at most. -/
  | repeated (a : Pattern) (least : Nat) (most : Option Nat)
  deriving Repr, DecidableEq

namespace Pattern

instance : Inhabited Pattern := ⟨.empty⟩

/-- Whether all texts of a pattern are empty for a reason that its form shows. -/
def isWidthless : Pattern → Bool
  | empty => true
  | one _ => false
  | look _ => true
  | group a => a.isWidthless
  | seq a b => a.isWidthless && b.isWidthless
  | alt a b => a.isWidthless && b.isWidthless
  | repeated a _ _ => a.isWidthless

/-- Whether no text of a pattern is empty for a reason that its form shows. -/
def isWide : Pattern → Bool
  | empty => false
  | one c => !c.isNothing
  | look _ => false
  | group a => a.isWide
  | seq a b => a.isWide || b.isWide
  | alt a b => a.isWide && b.isWide
  | repeated a least _ => 0 < least && a.isWide

/-- One pattern behind another. -/
def followedBy : Pattern → Pattern → Pattern
  | empty, b => b
  | a, empty => a
  | a, b => seq a b

/-- A pattern so many times. What has no width need not occur more than once. -/
def times (a : Pattern) (least : Nat) (most : Option Nat) : Pattern :=
  let (least, most) :=
    if a.isWidthless then (min least 1, some (min (most.getD 1) 1)) else (least, most)
  if most = some 0 then empty
  else if least = 1 && most = some 1 then a
  else repeated a least most

end Pattern

end Graft
