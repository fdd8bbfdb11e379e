import Graft.Host.Basic

/-!
Snapshots: the tree that hangs below an element, taken out of the store.

A snapshot is what is walked, described and shown. It is taken by looking up children of
children; they have greater numbers than their parents, so no walk down is longer than the
store.
-/

set_option autoImplicit false

namespace Graft

/-- An element with its number and what is below it. -/
inductive Snapshot where
  | node (id : ElementId) (element : Element) (children : List Snapshot)
  deriving Inhabited

namespace Snapshot

/-- The number of the topmost element. -/
def id : Snapshot → ElementId
  | node id _ _ => id

/-- The topmost element. -/
def element : Snapshot → Element
  | node _ e _ => e

/-- What is directly below the topmost element. -/
def children : Snapshot → List Snapshot
  | node _ _ cs => cs

mutual

/-- The numbers of all elements, parents before their children. -/
def ids : Snapshot → List ElementId
  | node id _ cs => id :: idsOf cs

/-- The numbers of all elements of several snapshots in turn. -/
def idsOf : List Snapshot → List ElementId
  | [] => []
  | s :: rest => ids s ++ idsOf rest

end

mutual

/-- The description of a snapshot. -/
def describe : Snapshot → Description
  | node _ e cs => .mk e.type e.name e.classes e.value.toJson (describeAll cs) e.readOnly

/-- The descriptions of snapshots. -/
def describeAll : List Snapshot → List Description
  | [] => []
  | s :: rest => describe s :: describeAll rest

end

end Snapshot

namespace Host

/-- The tree below an element, `depth` elements deep at most. -/
def snapshotWithin (h : Host) : (depth : Nat) → ElementId → Snapshot
  | 0, id => .node id (h.get id) []
  | depth + 1, id => .node id (h.get id) ((h.get id).children.map (snapshotWithin h depth))

/-- The tree below an element. -/
def snapshot (h : Host) (id : ElementId) : Snapshot :=
  h.snapshotWithin h.elements.size id

/-- The description of the tree below an element. -/
def toDescription (h : Host) (id : ElementId) : Description :=
  (h.snapshot id).describe

end Host

end Graft
