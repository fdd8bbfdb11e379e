import Graft.Host.Snapshot
import Graft.Proofs.Host.Marks

/-!
What an accepted operation changes.

Each operation goes to one element, and changes fields of this element and, at a deletion, of its
parent. An addition makes one element besides. `SameBut` says that nothing else has changed, also
among the elements that have been deleted, whoever may still hold them.

Elements have greater numbers than what is above them. So a tree looks the same in two hosts as
soon as the elements from its topmost one on are the same.
-/

set_option autoImplicit false

namespace Graft.Host

/-- Two hosts have the same kinds and the same elements, except perhaps for these elements. -/
structure SameBut (ids : List ElementId) (h h' : Host) : Prop where
  kinds : h'.kinds = h.kinds
  get : ∀ id, id ∉ ids → h'.get id = h.get id

section

variable {h h' : Host} {id other : ElementId}

/-! ## Updates and new elements -/

theorem SameBut.update (h : Host) (id : ElementId) (change : Element → Element) :
    SameBut [id] h (h.update id change) where
  kinds := kinds_update h id change
  get other hother := by
    rw [List.mem_singleton] at hother
    exact get_update_of_ne h change (Ne.symm hother)

/-- Nothing but the two elements of a deletion changes. -/
theorem SameBut.detached (h : Host) (parent id : ElementId) :
    SameBut [parent, id] h (h.detached parent id) where
  kinds := rfl
  get other hother := by
    rw [List.mem_pair, not_or] at hother
    unfold Host.detached
    rw [get_update_of_ne _ _ (Ne.symm hother.2), get_update_of_ne _ _ (Ne.symm hother.1)]

/-- Nothing but the new element and the one above it changes. -/
theorem SameBut.grown (h : Host) (id : ElementId) (e : Element) :
    SameBut [id, h.elements.size] h (h.grown id e) where
  kinds := rfl
  get other hother := by
    rw [List.mem_pair, not_or] at hother
    rw [get_grown_of_ne h e (Ne.symm hother.1), get_push, if_neg hother.2]

/-- An element that is neither new nor above the new one is as it was. -/
theorem get_grown_other (e : Element) (hother : other < h.elements.size) (hne : id ≠ other) :
    (h.grown id e).get other = h.get other := by
  apply (SameBut.grown h id e).get
  rw [List.mem_pair, not_or]
  exact ⟨Ne.symm hne, Nat.ne_of_lt hother⟩

theorem get_grown_new (e : Element) (hid : id < h.elements.size) :
    (h.grown id e).get h.elements.size = e := by
  rw [get_grown_of_ne h e (Nat.ne_of_lt hid), get_push, if_pos rfl]

theorem size_grown (h : Host) (id : ElementId) (e : Element) :
    (h.grown id e).elements.size = h.elements.size + 1 := by
  rw [grown, size_update, size_push]

/-- What an update makes of the element that it goes to. -/
theorem get_update_self (change : Element → Element) (hid : id < h.elements.size) :
    (h.update id change).get id = change (h.get id) := by
  rw [get_update h id id change hid, if_pos rfl]

/-! ## Accepted operations -/

/-- An update changes the element that it goes to and nothing else. -/
theorem footprint_update (change : Element → Element) (hid : id < h.elements.size) :
    (h.update id change).get id = change (h.get id) ∧
      (h.update id change).elements.size = h.elements.size ∧ SameBut [id] h (h.update id change) :=
  ⟨get_update_self change hid, size_update h id change, .update h id change⟩

theorem footprint_set {v : Value} (hid : id < h.elements.size) (hset : h.set id v = .ok h') :
    h'.get id = { h.get id with value := v, modified := true } ∧
      h'.elements.size = h.elements.size ∧ SameBut [id] h h' := by
  obtain ⟨_, rfl⟩ := set_eq_ok_iff.mp hset
  exact footprint_update _ hid

theorem footprint_merge {v : Value} (hid : id < h.elements.size)
    (hmerge : h.merge id v = .ok h') :
    h'.get id = { h.get id with value := (h.get id).value.merge v, modified := true } ∧
      h'.elements.size = h.elements.size ∧ SameBut [id] h h' := by
  obtain ⟨_, rfl⟩ := merge_eq_ok_iff.mp hmerge
  exact footprint_update _ hid

/-- An addition that an element and the kinds admit. -/
theorem add_eq_grown {tag : String} {v : Value} (heditable : h.checkEditable id = .ok ())
    (hkind : Table.get? h.kinds tag = some v) :
    h.add id tag = .ok (h.elements.size, h.grown id (seedling id tag v)) :=
  add_eq_ok_iff.mpr ⟨heditable, rfl, v, hkind, rfl⟩

theorem footprint_add {tag : String} {child : ElementId} (hid : id < h.elements.size)
    (hadd : h.add id tag = .ok (child, h')) :
    child = h.elements.size ∧ h'.elements.size = h.elements.size + 1 ∧
      (∃ v, Table.get? h.kinds tag = some v ∧ h'.get child = seedling id tag v) ∧
      h'.get id =
        { h.get id with children := (h.get id).children ++ [child], modified := true } ∧
      SameBut [id, child] h h' := by
  obtain ⟨_, rfl, v, hkind, hh'⟩ := add_eq_ok_iff.mp hadd
  obtain rfl : h' = h.grown id (seedling id tag v) := hh'
  exact ⟨rfl, size_grown h id _, ⟨v, hkind, get_grown_new _ hid⟩, get_grown _ hid,
    .grown h id _⟩

namespace Consistent

/-! ## Trees that look the same -/

/-- A tree, down to some depth, is made of elements from its topmost one on. -/
theorem snapshotWithin_congr (hh : h.Consistent) (depth : Nat) {top : ElementId}
    (hsame : ∀ id, top ≤ id → h'.get id = h.get id) :
    h'.snapshotWithin depth top = h.snapshotWithin depth top := by
  induction depth generalizing top with
  | zero =>
    unfold snapshotWithin
    rw [hsame top (Nat.le_refl _)]
  | succ depth ih =>
    unfold snapshotWithin
    rw [hsame top (Nat.le_refl _)]
    congr 1
    apply List.map_congr_left
    intro c hc
    have hlt : top < c := hh.ordered c top (hh.mem_children_iff.mp hc).2.1
    apply ih
    intro id hid
    exact hsame id (Nat.le_trans (Nat.le_of_lt hlt) hid)

/-- What is below an element looks the same if the element has the same children and what has
been made after it is the same. -/
theorem children_snapshot_congr (hh : h.Consistent) (hsize : h'.elements.size = h.elements.size)
    (hchildren : (h'.get id).children = (h.get id).children)
    (hsame : ∀ other, id < other → h'.get other = h.get other) :
    (h'.snapshot id).children = (h.snapshot id).children := by
  unfold snapshot
  rw [hsize]
  cases h.elements.size with
  | zero => rfl
  | succ depth =>
    unfold snapshotWithin
    simp only [Snapshot.children]
    rw [hchildren]
    apply List.map_congr_left
    intro c hc
    have hlt : id < c := hh.ordered c id (hh.mem_children_iff.mp hc).2.1
    apply hh.snapshotWithin_congr
    intro other hother
    exact hsame other (Nat.lt_of_lt_of_le hlt hother)

/-! ## Deletions -/

/-- **Deletion changes an element and its parent.** The parent loses the element from its list,
both are marked, and what is below the element stays below it. -/
theorem footprint_delete (hh : h.Consistent) {held : List ElementId}
    (hid : id < h.elements.size) (hdelete : h.delete held id = .ok h') :
    ∃ p before behind, h.parent? held id = some p ∧ p ≠ id ∧
      (h.get p).children = before ++ id :: behind ∧
      h'.get p = { h.get p with children := before ++ behind, modified := true } ∧
      h'.get id = { h.get id with deleted := true, modified := true } ∧
      (h'.snapshot id).children = (h.snapshot id).children ∧
      h'.elements.size = h.elements.size ∧ SameBut [p, id] h h' := by
  obtain ⟨p, before, behind, hparent?, hsplit, hleft, _⟩ := hh.delete_children hdelete
  obtain ⟨_, q, hq, rfl⟩ := delete_eq_ok_iff.mp hdelete
  obtain rfl : p = q := Option.some.inj (hparent?.symm.trans hq)
  have hlt : p < id := hh.ordered id p (Option.filter_eq_some_iff.mp hparent?).1
  have hsize : (h.detached p id).elements.size = h.elements.size := by
    unfold detached
    rw [size_update, size_update]
  have hbut := SameBut.detached h p id
  have hparent : (h.detached p id).get p =
      { h.get p with children := before ++ behind, modified := true } := by
    rw [children_detached, if_pos rfl] at hleft
    unfold detached
    rw [get_update_of_ne _ _ (Nat.ne_of_gt hlt), get_update_self _ (Nat.lt_trans hlt hid), hleft]
  have hself : (h.detached p id).get id = { h.get id with deleted := true, modified := true } := by
    have hid' : id < (h.update p fun e =>
        { e with children := e.children.filter (· != id), modified := true }).elements.size := by
      rw [size_update]
      exact hid
    unfold detached
    rw [get_update_self _ hid', get_update_of_ne _ _ (Nat.ne_of_lt hlt)]
  refine ⟨p, before, behind, hparent?, Nat.ne_of_lt hlt, hsplit, hparent, hself, ?_, hsize, hbut⟩
  -- What is below the element has been made after it, and so after the parent as well.
  apply hh.children_snapshot_congr hsize
  · rw [hself]
  · intro other hother
    apply hbut.get
    rw [List.mem_pair, not_or]
    exact ⟨Nat.ne_of_gt (Nat.lt_trans hlt hother), Nat.ne_of_gt hother⟩

end Consistent

end

end Graft.Host
