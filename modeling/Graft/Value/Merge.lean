import Graft.Value.Basic

/-!
Deep merging of values.

Objects merge key by key and lists position by position; where both sides have a list or an
object at the same place they merge in turn, and anywhere else the right side replaces the
left one. A removal marker on the right removes the key or the position it stands at. What
is taken over from the right is stored without its markers. A bare marker has no place of
its own and leaves the left value as it is.
-/

set_option autoImplicit false

namespace Graft.Value

mutual

/-- `merge l r` is `l` after merging `r` into it. -/
def merge : Value → Value → Value
  | object l, object r => object (mergeEntries l r)
  | list l, list r => list (mergeItems l r)
  | l, deletion => l
  | _, r => withoutDeletions r

/-- Merges lists position by position: the items beyond the end of the left list are
appended, and the positions that hold a marker on the right are left out. -/
def mergeItems : List Value → List Value → List Value
  | ls, [] => ls
  | [], r :: rs =>
    if r.isDeletion then mergeItems [] rs else withoutDeletions r :: mergeItems [] rs
  | l :: ls, r :: rs =>
    if r.isDeletion then mergeItems ls rs
    else (if l.isContainer && r.isContainer then merge l r else withoutDeletions r) ::
      mergeItems ls rs

/-- Merges the entries on the right into the left table, one after the other. -/
def mergeEntries : List (String × Value) → List (String × Value) → List (String × Value)
  | l, [] => l
  | l, (k, r) :: rest =>
    mergeEntries
      (if r.isDeletion then Table.erase l k
      else Table.insert l k <|
        match Table.get? l k with
        | some v => if v.isContainer && r.isContainer then merge v r else withoutDeletions r
        | none => withoutDeletions r)
      rest

end

example :
    merge (list [int 1, int 2, int 3]) (list [deletion, int 5]) = list [int 5, int 3] := rfl

end Graft.Value
