import Graft.Coordinate

/-!
Selectors: which elements of a tree a block applies to.

A selector tests one element and, for `child`, the elements above it. An addition matches
nothing; as the last segment of a selector it asks for a new element instead. Invalid
selectors come from hosts that build selectors themselves.
-/

set_option autoImplicit false

namespace Graft

/-- A selector. -/
inductive Selector where
  /-- Elements of a type. -/
  | ofType (loc : Coordinate) (type : String)
  /-- Elements with a name. -/
  | withName (loc : Coordinate) (name : String)
  /-- Elements with a class. -/
  | withClass (loc : Coordinate) (class_ : String)
  /-- What the ruleset of that name matches. -/
  | ruleset (loc : Coordinate) (name : String)
  /-- Every element. -/
  | wildcard (loc : Coordinate)
  | withoutClass (loc : Coordinate) (class_ : String)
  | withoutName (loc : Coordinate) (name : String)
  /-- What `below` matches underneath something that `above` matches. -/
  | child (loc : Coordinate) (above below : Selector)
  | intersection (loc : Coordinate) (left right : Selector)
  | combination (loc : Coordinate) (left right : Selector)
  /-- A new element of a type. -/
  | addition (loc : Coordinate) (type : String)
  | invalid (loc : Coordinate) (message : String)
  deriving Repr, DecidableEq

namespace Selector

instance : Inhabited Selector := ⟨.wildcard .origin⟩

/-- Where a selector stands. -/
def loc : Selector → Coordinate
  | .ofType l _ => l
  | .withName l _ => l
  | .withClass l _ => l
  | .ruleset l _ => l
  | .wildcard l => l
  | .withoutClass l _ => l
  | .withoutName l _ => l
  | .child l _ _ => l
  | .intersection l _ _ => l
  | .combination l _ _ => l
  | .addition l _ => l
  | .invalid l _ => l

end Selector

end Graft
