import Mathlib.Data.List.Nodup
import Graft.Proofs.Host.Tree

/-!
What the marks of elements tell.

An element is marked as modified when its value or its list of children may have changed, and as
deleted when it is taken out of the list that it is in. No operation takes either mark back. So
an element that is not marked as modified is as it was, and one that is marked as deleted stays
out of the tree. `Follows` says this of two hosts, of which the second has come of the first.

In a host that holds a tree, the mark of deletion, the parent and the lists of children say the
same of where an element is: this is what the last part of the file spells out.
-/

set_option autoImplicit false

namespace Graft.Host

/-- A host that has come of another: the marks of its elements tell what may have changed. -/
structure Follows (start h : Host) : Prop where
  size : start.elements.size ≤ h.elements.size
  /-- Marks are not taken back. -/
  modified : ∀ id, (start.get id).modified = true → (h.get id).modified = true
  deleted : ∀ id, (start.get id).deleted = true → (h.get id).deleted = true
  /-- What is not marked was there before, with the same value and the same children. -/
  untouched : ∀ id, id < h.elements.size → (h.get id).modified = false →
    id < start.elements.size ∧ (h.get id).value = (start.get id).value ∧
      (h.get id).children = (start.get id).children

/-- A change of an element that marks it, unless it leaves its value and its children alone. -/
def Marks (change : Element → Element) : Prop :=
  ∀ e : Element, (change e).modified = true ∨
    ((change e).modified = e.modified ∧ (change e).value = e.value ∧
      (change e).children = e.children)

/-! ## Operations -/

namespace Follows

variable {start h h' : Host} {id : ElementId}

theorem refl (h : Host) : Follows h h where
  size := Nat.le_refl _
  modified _ hm := hm
  deleted _ hd := hd
  untouched _ hid _ := ⟨hid, rfl, rfl⟩

theorem trans (h₁ : Follows start h) (h₂ : Follows h h') : Follows start h' where
  size := Nat.le_trans h₁.size h₂.size
  modified id hm := h₂.modified id (h₁.modified id hm)
  deleted id hd := h₂.deleted id (h₁.deleted id hd)
  untouched id hid hm := by
    obtain ⟨hlt, hvalue, hchildren⟩ := h₂.untouched id hid hm
    -- What is not marked in the end has not been marked before.
    have hunmarked : (h.get id).modified = false := by
      rw [Bool.eq_false_iff]
      intro hmarked
      rw [h₂.modified id hmarked] at hm
      cases hm
    obtain ⟨hlt', hvalue', hchildren'⟩ := h₁.untouched id hlt hunmarked
    exact ⟨hlt', hvalue.trans hvalue', hchildren.trans hchildren'⟩

/-- An update is followed if it marks what it changes and does not take back deletions. -/
theorem update (h : Host) (id : ElementId) {change : Element → Element} (hmarks : Marks change)
    (hdeleted : ∀ e : Element, e.deleted = true → (change e).deleted = true) :
    Follows h (h.update id change) := by
  by_cases hid : id < h.elements.size
  · refine ⟨Nat.le_of_eq (size_update h id change).symm, fun other hm => ?_, fun other hd => ?_,
      fun other hother hm => ?_⟩
    · rw [get_update h id other change hid]
      split
      · rcases hmarks (h.get other) with hmarked | ⟨hsame, _, _⟩
        · exact hmarked
        · rw [hsame]
          exact hm
      · exact hm
    · rw [get_update h id other change hid]
      split
      · exact hdeleted _ hd
      · exact hd
    · rw [size_update] at hother
      rw [get_update h id other change hid] at hm ⊢
      refine ⟨hother, ?_⟩
      by_cases he : id = other
      · rw [if_pos he] at hm ⊢
        rcases hmarks (h.get other) with hmarked | ⟨_, hvalue, hchildren⟩
        · rw [hmarked] at hm
          cases hm
        · exact ⟨hvalue, hchildren⟩
      · rw [if_neg he]
        exact ⟨rfl, rfl⟩
  · -- There is nothing to change.
    rw [update_of_size_le (Nat.not_lt.mp hid)]
    exact refl h

/-- A new element is marked. -/
theorem push (h : Host) {e : Element} (he : e.modified = true) : Follows h (h.push e).2 := by
  have hnew : h.get h.elements.size = default := get_of_size_le (Nat.le_refl _)
  refine ⟨?_, fun other hm => ?_, fun other hd => ?_, fun other hother hm => ?_⟩
  · rw [size_push]
    exact Nat.le_succ _
  · rw [get_push]
    split
    · exact he
    · exact hm
  · rw [get_push, if_neg]
    · exact hd
    · -- Where there was nothing, nothing was deleted.
      rintro rfl
      rw [hnew] at hd
      cases hd
  · rw [get_push] at hm ⊢
    rw [size_push] at hother
    by_cases hlast : other = h.elements.size
    · rw [if_pos hlast, he] at hm
      cases hm
    · rw [if_neg hlast]
      exact ⟨Nat.lt_of_le_of_ne (Nat.le_of_lt_succ hother) hlast, rfl, rfl⟩

theorem set {v : Value} (hset : h.set id v = .ok h') : Follows h h' := by
  obtain ⟨_, rfl⟩ := set_eq_ok_iff.mp hset
  exact update h id (fun _ => .inl rfl) fun _ hd => hd

theorem merge {v : Value} (hmerge : h.merge id v = .ok h') : Follows h h' := by
  obtain ⟨_, rfl⟩ := merge_eq_ok_iff.mp hmerge
  exact update h id (fun _ => .inl rfl) fun _ hd => hd

/-- A deletion marks the element and the one that it is taken from. -/
theorem delete {held : List ElementId} (hdelete : h.delete held id = .ok h') : Follows h h' := by
  obtain ⟨_, parent, _, rfl⟩ := delete_eq_ok_iff.mp hdelete
  have htaken : Follows h (h.update parent fun e =>
      { e with children := e.children.filter (· != id), modified := true }) :=
    update h parent (fun _ => .inl rfl) fun _ hd => hd
  exact htaken.trans (update _ id (fun _ => .inl rfl) fun _ _ => rfl)

/-- An addition marks the new element and the one that it is added to. -/
theorem add {tag : String} {child : ElementId} (hadd : h.add id tag = .ok (child, h')) :
    Follows h h' := by
  obtain ⟨_, _, v, _, rfl⟩ := add_eq_ok_iff.mp hadd
  have hpush : Follows h (h.push (seedling id tag v)).2 := push h rfl
  exact hpush.trans (update _ id (fun _ => .inl rfl) fun _ hd => hd)

/-- Protection is no change that is marked. -/
theorem setReadOnly (h : Host) (id : ElementId) (on : Bool) : Follows h (h.setReadOnly id on) :=
  update h id (fun _ => .inr ⟨rfl, rfl, rfl⟩) fun _ hd => hd

/-- What a selection adds is marked, whether the selection succeeds or fails. -/
theorem select (h : Host) (rulesets : Table Selector) (limit : Nat) (s : Selector)
    (scope : ElementId) : Follows h (s.select rulesets limit scope h).2 :=
  select_invariant (J := Follows h) (fun hadd hh => hh.trans (add hadd)) rulesets limit s scope
    (refl h)

end Follows

/-! ## Where an element is -/

namespace Consistent

variable {h h' : Host} {p id : ElementId}

/-- What has been deleted is in no list of children. -/
theorem not_mem_children_of_deleted (hh : h.Consistent) (hdeleted : (h.get id).deleted = true)
    (p : ElementId) : id ∉ (h.get p).children := by
  intro hmem
  have hkept := (hh.mem_children_iff.mp hmem).2.2
  rw [hdeleted] at hkept
  cases hkept

/-- The root is above every other element. -/
theorem root_above (hh : h.Consistent) : ∀ {id : ElementId}, id < h.elements.size → id ≠ root →
    h.Above root id := by
  intro id
  induction id using Nat.strongRecOn with
  | ind id ih =>
    intro hid hroot
    obtain ⟨p, hp⟩ := Option.isSome_iff_exists.mp (hh.rooted id hid hroot)
    have hlt : p < id := hh.ordered id p hp
    by_cases htop : p = root
    · subst htop
      exact .parent hp
    · exact .step hp (ih p hlt (Nat.lt_trans hlt hid) htop)

/-- What hangs in the tree is left as long as somebody holds the root. -/
theorem alive_of_attached (hh : h.Consistent) {held : List ElementId} (hheld : root ∈ held)
    (hid : id < h.elements.size) (hattached : h.Attached id) : h.alive held id = true := by
  rw [alive_iff hh.ordered]
  by_cases hroot : id = root
  · subst hroot
    exact .inl hheld
  · obtain ⟨hkept, habove⟩ := (hh.attached_iff hid).mp hattached
    have hroot_above := hh.root_above hid hroot
    exact .inr ⟨hkept, root, hheld, hroot_above, fun a _ ha => habove a ha⟩

/-- **An element of the tree has one place.** It stands once in the list of its parent and in no
other list. -/
theorem place_of_attached (hh : h.Consistent) {held : List ElementId} (hheld : root ∈ held)
    (hattached : h.Attached id) (hroot : id ≠ root) :
    ∃ p, h.parent? held id = some p ∧ (h.get p).children.count id = 1 ∧
      (∀ q, id ∈ (h.get q).children → q = p) ∧ (h.get id).deleted = false := by
  obtain ⟨p, hp, hmem⟩ := (attached_iff_mem_children hroot).mp hattached
  obtain ⟨hlt, hparent, hkept⟩ := hh.mem_children_iff.mp hmem
  have halive : h.alive held p = true :=
    hh.alive_of_attached hheld (Nat.lt_trans (hh.ordered id p hparent) hlt) hp
  refine ⟨p, ?_, List.count_eq_one_of_mem (hh.nodup_children p) hmem, fun q hq => ?_, hkept⟩
  · rw [parent?, hparent, Option.filter_some, if_pos halive]
  · -- The lists agree with the parents, of which there is only one.
    have hq' := (hh.mem_children_iff.mp hq).2.1
    rw [hparent] at hq'
    exact (Option.some.inj hq').symm

/-- **Deletion takes one element out of one list.** The element is there, and its siblings stay in
their order. -/
theorem delete_children (hh : h.Consistent) {held : List ElementId}
    (hdelete : h.delete held id = .ok h') :
    ∃ p before behind, h.parent? held id = some p ∧
      (h.get p).children = before ++ id :: behind ∧ (h'.get p).children = before ++ behind ∧
      (∀ q, q ≠ p → (h'.get q).children = (h.get q).children) ∧
      (h'.get id).deleted = true := by
  obtain ⟨heditable, p, hparent?, rfl⟩ := delete_eq_ok_iff.mp hdelete
  have hparent : (h.get id).parent = some p := (Option.filter_eq_some_iff.mp hparent?).1
  -- Where there is no element, there is no parent.
  have hlt : id < h.elements.size := by
    refine Nat.lt_of_not_le fun hle => ?_
    rw [get_of_size_le hle] at hparent
    cases hparent
  have hkept : (h.get id).deleted = false := (checkEditable_eq_ok_iff.mp heditable).1
  have hmem : id ∈ (h.get p).children := hh.mem_children_iff.mpr ⟨hlt, hparent, hkept⟩
  obtain ⟨before, behind, hsplit⟩ := List.append_of_mem hmem
  have hnodup := hh.nodup_children p
  rw [hsplit, List.nodup_middle, List.nodup_cons, List.mem_append, not_or] at hnodup
  obtain ⟨⟨hbefore, hbehind⟩, _⟩ := hnodup
  refine ⟨p, before, behind, hparent?, hsplit, ?_, fun q hq => ?_, ?_⟩
  · have hfilter : ∀ l : List ElementId, id ∉ l → l.filter (· != id) = l := by
      intro l hl
      rw [List.filter_eq_self]
      intro other hother
      have hne : other ≠ id := fun he => hl (he ▸ hother)
      simpa using hne
    rw [children_detached, if_pos rfl, hsplit, List.filter_append, hfilter before hbefore,
      List.filter_cons_of_neg, hfilter behind hbehind]
    simp
  · rw [children_detached, if_neg (Ne.symm hq)]
  · have hlt' : id < (h.update p fun e =>
        { e with children := e.children.filter (· != id), modified := true }).elements.size := by
      rw [size_update]
      exact hlt
    rw [detached, get_update _ id id _ hlt', if_pos rfl]

end Consistent

end Graft.Host
