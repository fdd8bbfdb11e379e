import Graft.Proofs.Host.Walk
import Graft.Proofs.Value.Json

/-!
Trees and their descriptions.

A description says what an element is, not what has happened to it: its type, name, classes,
value and protection, and what is below it, in order. Neither its number nor its marks nor the
kinds of elements that can be added are told. Two trees that agree in all of what a description
says are the same here.

A tree that is built from a description whose values are exact is described by it, and a tree
whose values are exact is the same as the one that is built from its description.
-/

set_option autoImplicit false

namespace Graft

/-! ## Exact values throughout -/

mutual

/-- The values of a description are exact. -/
def Description.Exact : Description → Prop
  | .mk _ _ _ value children _ => value.Exact ∧ Description.ExactAll children

/-- The same of several descriptions. -/
def Description.ExactAll : List Description → Prop
  | [] => True
  | d :: rest => d.Exact ∧ Description.ExactAll rest

end

namespace Snapshot

mutual

/-- The values of the elements of a snapshot are exact. -/
def Exact : Snapshot → Prop
  | node _ e trees => e.value.Exact ∧ ExactAll trees

/-- The same of several snapshots. -/
def ExactAll : List Snapshot → Prop
  | [] => True
  | tree :: rest => tree.Exact ∧ ExactAll rest

end

theorem exactAll_iff {trees : List Snapshot} : ExactAll trees ↔ ∀ tree ∈ trees, tree.Exact := by
  induction trees with
  | nil => simp [ExactAll]
  | cons tree rest ih => simp [ExactAll, ih]

end Snapshot

/-- A snapshot is exact if the values of all that it shows are. -/
theorem Host.exact_snapshotWithin {h : Host} : ∀ {depth : Nat} {top : ElementId},
    (∀ id ∈ (h.snapshotWithin depth top).ids, (h.get id).value.Exact) →
    (h.snapshotWithin depth top).Exact
  | 0, top, hids => by
    rw [snapshotWithin, Snapshot.Exact]
    exact ⟨hids top List.mem_cons_self, trivial⟩
  | depth + 1, top, hids => by
    simp only [snapshotWithin, Snapshot.ids, List.mem_cons] at hids
    rw [snapshotWithin, Snapshot.Exact, Snapshot.exactAll_iff]
    refine ⟨hids top (.inl rfl), fun tree htree => ?_⟩
    obtain ⟨c, hc, rfl⟩ := List.mem_map.mp htree
    refine exact_snapshotWithin fun id hid => hids id (.inr ?_)
    exact Snapshot.mem_idsOf_iff.mpr ⟨_, htree, hid⟩

/-! ## The same tree -/

/-- Two elements agree in what a description says of them. -/
structure Element.Same (e e' : Element) : Prop where
  type : e.type = e'.type
  name : e.name = e'.name
  classes : e.classes = e'.classes
  value : e.value = e'.value
  readOnly : e.readOnly = e'.readOnly

namespace Snapshot

mutual

/-- Two snapshots have the same shape, and their elements agree. -/
def Same : Snapshot → Snapshot → Prop
  | node _ e trees, node _ e' trees' => e.Same e' ∧ SameAll trees trees'

/-- Two lists of snapshots agree one by one. -/
def SameAll : List Snapshot → List Snapshot → Prop
  | [], [] => True
  | tree :: rest, tree' :: rest' => tree.Same tree' ∧ SameAll rest rest'
  | [], _ :: _ => False
  | _ :: _, [] => False

end

end Snapshot

namespace Host

/-! ## Built from a description -/

mutual

/-- What is built from an exact description is described by it. -/
theorem describe_numbered {parent : Option ElementId} {n : ElementId} :
    ∀ {d : Description}, d.Exact → (numbered parent n d).describe = d
  | .mk type name classes value children readOnly, hd => by
    rw [Description.Exact] at hd
    rw [numbered, Snapshot.describe, describeAll_numberedAll hd.2]
    simp only [sprout, Value.toJson_ofJson hd.1]

theorem describeAll_numberedAll {parent n : ElementId} :
    ∀ {ds : List Description}, Description.ExactAll ds →
      Snapshot.describeAll (numberedAll parent n ds) = ds
  | [], _ => rfl
  | d :: rest, hds => by
    rw [Description.ExactAll] at hds
    rw [numberedAll, Snapshot.describeAll, describe_numbered hds.1, describeAll_numberedAll hds.2]

end

/-! ## Built from a tree -/

mutual

/-- What is built from the description of an exact tree is the same tree. -/
theorem same_numbered_describe {parent : Option ElementId} {n : ElementId} :
    ∀ {tree : Snapshot}, tree.Exact → (numbered parent n tree.describe).Same tree
  | .node id e trees, htree => by
    rw [Snapshot.Exact] at htree
    rw [Snapshot.describe, numbered, Snapshot.Same]
    refine ⟨⟨rfl, rfl, rfl, ?_, rfl⟩, sameAll_numberedAll_describeAll htree.2⟩
    exact Value.ofJson_toJson htree.1

theorem sameAll_numberedAll_describeAll {parent n : ElementId} :
    ∀ {trees : List Snapshot}, Snapshot.ExactAll trees →
      Snapshot.SameAll (numberedAll parent n (Snapshot.describeAll trees)) trees
  | [], _ => by
    rw [Snapshot.describeAll, numberedAll, Snapshot.SameAll]
    trivial
  | tree :: rest, htrees => by
    rw [Snapshot.ExactAll] at htrees
    rw [Snapshot.describeAll, numberedAll, Snapshot.SameAll]
    exact ⟨same_numbered_describe htrees.1, sameAll_numberedAll_describeAll htrees.2⟩

end

mutual

/-- The description of a tree has an element for each that the tree shows. -/
theorem count_describe : ∀ tree : Snapshot, tree.describe.count = tree.ids.length
  | .node id e trees => by
    rw [Snapshot.describe, Description.count, Snapshot.ids, List.length_cons,
      countAll_describeAll trees]

theorem countAll_describeAll : ∀ trees : List Snapshot,
    Description.countAll (Snapshot.describeAll trees) = (Snapshot.idsOf trees).length
  | [] => rfl
  | tree :: rest => by
    rw [Snapshot.describeAll, Description.countAll, Snapshot.idsOf, List.length_append,
      count_describe tree, countAll_describeAll rest]

end

end Host

end Graft
