import Graft.Proofs.Host.Marks

/-!
Elements that are protected from edits.

An edit asks the element that it goes to whether it may be changed, and no other element. A
protected element therefore keeps its value, is given no children and is not deleted. But the
deletion of a child asks the child alone, and it takes the child out of the list of its parent and
marks the parent, protected or not. `OnlyLoses` says that this is all that happens.
-/

set_option autoImplicit false

namespace Graft.Host

/-! ## Refusals -/

/-- An element is not opened for edits, and every edit of it is refused, with this error. -/
structure Refuses (h : Host) (id : ElementId) (e : HostError) : Prop where
  checkEditable : h.checkEditable id = .error e
  set : ∀ v, h.set id v = .error e
  merge : ∀ v, h.merge id v = .error e
  delete : ∀ held, h.delete held id = .error e
  add : ∀ tag, h.add id tag = .error e

section

variable {h h' : Host} {id : ElementId}

/-- Every edit asks what is asked when an element is opened. -/
theorem refuses_of_checkEditable {e : HostError} (hrefused : h.checkEditable id = .error e) :
    h.Refuses id e where
  checkEditable := hrefused
  set v := by
    rw [set, hrefused]
    rfl
  merge v := by
    rw [merge, hrefused]
    rfl
  delete held := by
    rw [delete, hrefused]
    rfl
  add tag := by
    rw [add, hrefused]
    rfl

/-- A protected element refuses as such, unless it has been deleted. -/
theorem refuses_of_readOnly (hprotected : (h.get id).readOnly = true)
    (hkept : (h.get id).deleted = false) : h.Refuses id (.readOnly (h.get id).describe) := by
  apply refuses_of_checkEditable
  simp [checkEditable, hprotected, hkept]

theorem refuses_of_deleted (hdeleted : (h.get id).deleted = true) :
    h.Refuses id (.deleted (h.get id).describe) := by
  apply refuses_of_checkEditable
  simp [checkEditable, hdeleted]

/-- An edit that is accepted does not go to a protected element. -/
theorem ne_of_editable {other : ElementId} (hprotected : (h.get id).readOnly = true)
    (hother : h.checkEditable other = .ok ()) : other ≠ id := by
  rintro rfl
  rw [(checkEditable_eq_ok_iff.mp hother).2] at hprotected
  cases hprotected

end

/-! ## Operations that spare an element -/

/-- An element is left as it was, and nothing is deleted. -/
structure Spares (id : ElementId) (h h' : Host) : Prop where
  get : h'.get id = h.get id
  deleted : ∀ c, (h'.get c).deleted = (h.get c).deleted

namespace Spares

variable {h h' h'' : Host} {id other : ElementId}

theorem refl (h : Host) : Spares id h h :=
  ⟨rfl, fun _ => rfl⟩

theorem trans (h₁ : Spares id h h') (h₂ : Spares id h' h'') : Spares id h h'' :=
  ⟨h₂.get.trans h₁.get, fun c => (h₂.deleted c).trans (h₁.deleted c)⟩

/-- A change of another element that deletes nothing. -/
theorem update (h : Host) {change : Element → Element} (hne : other ≠ id)
    (hdeleted : ∀ e : Element, (change e).deleted = e.deleted) :
    Spares id h (h.update other change) :=
  ⟨get_update_of_ne h change hne, fun c => field_update h other c (f := Element.deleted) hdeleted⟩

/-- A new element is not deleted, and neither is what is no element. -/
theorem push (h : Host) {e : Element} (hid : id < h.elements.size) (he : e.deleted = false) :
    Spares id h (h.push e).2 := by
  constructor
  · rw [get_push, if_neg (Nat.ne_of_lt hid)]
  · intro c
    rw [get_push]
    split
    · rename_i hc
      rw [he, get_of_size_le (Nat.le_of_eq hc.symm)]
      rfl
    · rfl

theorem set {v : Value} (hprotected : (h.get id).readOnly = true)
    (hset : h.set other v = .ok h') : Spares id h h' := by
  obtain ⟨heditable, rfl⟩ := set_eq_ok_iff.mp hset
  exact update h (ne_of_editable hprotected heditable) fun _ => rfl

theorem merge {v : Value} (hprotected : (h.get id).readOnly = true)
    (hmerge : h.merge other v = .ok h') : Spares id h h' := by
  obtain ⟨heditable, rfl⟩ := merge_eq_ok_iff.mp hmerge
  exact update h (ne_of_editable hprotected heditable) fun _ => rfl

theorem add {tag : String} {child : ElementId} (hid : id < h.elements.size)
    (hprotected : (h.get id).readOnly = true) (hadd : h.add other tag = .ok (child, h')) :
    Spares id h h' := by
  obtain ⟨heditable, _, v, _, rfl⟩ := add_eq_ok_iff.mp hadd
  have hpush : Spares id h (h.push (seedling other tag v)).2 := push h hid rfl
  exact hpush.trans (update _ (ne_of_editable hprotected heditable) fun _ => rfl)

/-- Nothing is added to a protected element by a selection, whether it succeeds or fails. -/
theorem select (hid : id < h.elements.size) (hprotected : (h.get id).readOnly = true)
    (rulesets : Table Selector) (limit : Nat) (s : Selector) (scope : ElementId) :
    Spares id h (s.select rulesets limit scope h).2 := by
  have hselect := select_invariant (J := fun h' => Spares id h h' ∧ id < h'.elements.size)
    (fun {h₁ h₂ _ _ _} hadd ⟨hspares, hlt⟩ => ?_) rulesets limit s scope ⟨refl h, hid⟩
  · exact hselect.1
  · have hstill : (h₁.get id).readOnly = true := by
      rw [hspares.get]
      exact hprotected
    exact ⟨hspares.trans (add hlt hstill hadd), Nat.lt_of_lt_of_le hlt (Follows.add hadd).size⟩

end Spares

/-! ## What happens to a protected element -/

/-- An element has lost the children that have been deleted, which marks it, and nothing else has
happened to it. -/
structure OnlyLoses (id : ElementId) (h h' : Host) : Prop where
  value : (h'.get id).value = (h.get id).value
  children : (h'.get id).children = (h.get id).children.filter fun c => !(h'.get c).deleted
  modified : (h'.get id).modified =
    ((h.get id).modified || (h.get id).children.any fun c => (h'.get c).deleted)

section

variable {h h' h'' : Host} {id : ElementId}

/-- What has been lost first is lost. -/
theorem OnlyLoses.trans (h₁ : OnlyLoses id h h') (h₂ : OnlyLoses id h' h'')
    (hdeleted : ∀ c, (h'.get c).deleted = true → (h''.get c).deleted = true) :
    OnlyLoses id h h'' where
  value := h₂.value.trans h₁.value
  children := by
    rw [h₂.children, h₁.children, List.filter_filter]
    refine List.filter_congr fun c _ => ?_
    have hc := hdeleted c
    cases hold : (h'.get c).deleted with
    | true => rw [hc hold]; rfl
    | false => exact Bool.and_true _
  modified := by
    rw [h₂.modified, h₁.modified, h₁.children, Bool.or_assoc, List.any_filter]
    refine congrArg _ ?_
    -- A child that is deleted in the end has been lost before, or is lost now.
    rw [Bool.eq_iff_iff, Bool.or_eq_true, List.any_eq_true, List.any_eq_true, List.any_eq_true]
    constructor
    · rintro (⟨c, hc, hold⟩ | ⟨c, hc, hnew⟩)
      · exact ⟨c, hc, hdeleted c hold⟩
      · rw [Bool.and_eq_true] at hnew
        exact ⟨c, hc, hnew.2⟩
    · rintro ⟨c, hc, hnew⟩
      cases hold : (h'.get c).deleted with
      | true => exact .inl ⟨c, hc, hold⟩
      | false => exact .inr ⟨c, hc, by rw [hold, hnew]; rfl⟩

/-- Nothing is lost of a list in which nothing is deleted. -/
theorem filter_kept {l : List ElementId} (hkept : ∀ c ∈ l, (h'.get c).deleted = false) :
    (l.filter fun c => !(h'.get c).deleted) = l ∧
      (l.any fun c => (h'.get c).deleted) = false := by
  constructor
  · rw [List.filter_eq_self]
    intro c hc
    rw [hkept c hc]
    rfl
  · rw [List.any_eq_false]
    intro c hc
    rw [hkept c hc]
    exact Bool.false_ne_true

/-- Where an element keeps its value, its list and its mark, and no child of it is deleted, it has
lost nothing. -/
theorem OnlyLoses.of_kept (hvalue : (h'.get id).value = (h.get id).value)
    (hchildren : (h'.get id).children = (h.get id).children)
    (hmodified : (h'.get id).modified = (h.get id).modified)
    (hkept : ∀ c ∈ (h.get id).children, (h'.get c).deleted = false) : OnlyLoses id h h' := by
  obtain ⟨hfilter, hnone⟩ := filter_kept hkept
  refine ⟨hvalue, ?_, ?_⟩
  · rw [hchildren, hfilter]
  · rw [hmodified, hnone, Bool.or_false]

/-- The element is as it was exactly if no child of it has been deleted. -/
theorem OnlyLoses.unchanged_iff (hl : OnlyLoses id h h') :
    ((h'.get id).value = (h.get id).value ∧ (h'.get id).children = (h.get id).children ∧
        (h'.get id).modified = (h.get id).modified) ↔
      ∀ c ∈ (h.get id).children, (h'.get c).deleted = false := by
  constructor
  · rintro ⟨_, hchildren, _⟩ c hc
    rw [hl.children, List.filter_eq_self] at hchildren
    simpa using hchildren c hc
  · intro hkept
    obtain ⟨hfilter, hnone⟩ := filter_kept hkept
    refine ⟨hl.value, ?_, ?_⟩
    · rw [hl.children, hfilter]
    · rw [hl.modified, hnone, Bool.or_false]

namespace Consistent

/-- Children of a tree are not deleted. -/
theorem kept_of_mem_children (hh : h.Consistent) {c : ElementId} (hc : c ∈ (h.get id).children) :
    (h.get c).deleted = false :=
  (hh.mem_children_iff.mp hc).2.2

theorem onlyLoses_of_spares (hh : h.Consistent) (hs : Spares id h h') : OnlyLoses id h h' := by
  refine .of_kept (congrArg Element.value hs.get) (congrArg Element.children hs.get)
    (congrArg Element.modified hs.get) fun c hc => ?_
  rw [hs.deleted]
  exact hh.kept_of_mem_children hc

/-- Protecting elements, and lifting the protection, changes nothing else. -/
theorem onlyLoses_setReadOnly (hh : h.Consistent) (id other : ElementId) (on : Bool) :
    OnlyLoses id h (h.setReadOnly other on) := by
  refine .of_kept (field_update h other id (f := Element.value) fun _ => rfl)
    (field_update h other id (f := Element.children) fun _ => rfl)
    (field_update h other id (f := Element.modified) fun _ => rfl) fun c hc => ?_
  refine Eq.trans (field_update h other c (f := Element.deleted) fun _ => rfl) ?_
  exact hh.kept_of_mem_children hc

/-- **A deletion takes a child from its parent, protected or not.** From any other protected
element it takes nothing. -/
theorem onlyLoses_delete (hh : h.Consistent) (hprotected : (h.get id).readOnly = true)
    {held : List ElementId} {other : ElementId} (hdelete : h.delete held other = .ok h') :
    OnlyLoses id h h' := by
  have hgone : (h'.get other).deleted = true := by
    obtain ⟨_, _, _, _, _, _, _, hgone⟩ := hh.delete_children hdelete
    exact hgone
  obtain ⟨heditable, parent, hparent?, rfl⟩ := delete_eq_ok_iff.mp hdelete
  have hne : other ≠ id := ne_of_editable hprotected heditable
  have hparent : (h.get other).parent = some parent := (Option.filter_eq_some_iff.mp hparent?).1
  have hothers : ∀ c ∈ (h.get id).children, c ≠ other →
      ((h.detached parent other).get c).deleted = false := by
    intro c hc hco
    rw [deleted_detached h (Ne.symm hco)]
    exact hh.kept_of_mem_children hc
  have hvalue : ((h.detached parent other).get id).value = (h.get id).value := by
    refine Eq.trans (field_update _ other id (f := Element.value) fun _ => rfl) ?_
    exact field_update h parent id (f := Element.value) fun _ => rfl
  by_cases hp : parent = id
  · subst hp
    have hlt : parent < h.elements.size := by
      refine Nat.lt_of_not_le fun hle => ?_
      rw [get_of_size_le hle] at hprotected
      cases hprotected
    have hchild : other ∈ (h.get parent).children := by
      obtain ⟨p, before, behind, hp, hsplit, _⟩ := hh.delete_children hdelete
      rw [hparent?] at hp
      obtain rfl := Option.some.inj hp
      rw [hsplit]
      exact List.mem_append_right _ List.mem_cons_self
    refine ⟨hvalue, ?_, ?_⟩
    · rw [children_detached, if_pos rfl]
      refine List.filter_congr fun c hc => ?_
      by_cases hco : c = other
      · rw [hco, hgone]
        exact bne_self_eq_false other
      · rw [hothers c hc hco]
        simpa using hco
    · have hany : ((h.get parent).children.any fun c =>
          ((h.detached parent other).get c).deleted) = true :=
        List.any_eq_true.mpr ⟨other, hchild, hgone⟩
      rw [hany, Bool.or_true, detached, get_update_of_ne _ _ hne, get_update h parent parent _ hlt,
        if_pos rfl]
  · refine .of_kept hvalue ?_ ?_ fun c hc => hothers c hc ?_
    · rw [children_detached, if_neg hp]
    · rw [detached, get_update_of_ne _ _ hne, get_update_of_ne h _ hp]
    · -- A child has one parent only.
      rintro rfl
      have hid := (hh.mem_children_iff.mp hc).2.1
      rw [hparent] at hid
      exact hp (Option.some.inj hid)

end Consistent

end

end Graft.Host
