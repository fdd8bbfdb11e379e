import Graft.Proofs.Host.Loaded

/-!
The tree that a host holds.

An element knows its parent and its children, and the two agree: the children of an element
are those that were made under it and are not deleted, each once and in the order of their
numbers. Loading a tree makes hosts of this kind, and no operation breaks the agreement, so
the lists of children can be told from the elements alone.

What is reached from the root through lists of children is therefore what neither has been
deleted itself nor is below something that has.
-/

set_option autoImplicit false

namespace Graft

/-- What several snapshots show is shown by one of them. -/
theorem Snapshot.mem_idsOf_iff {id : ElementId} {trees : List Snapshot} :
    id ∈ idsOf trees ↔ ∃ tree ∈ trees, id ∈ tree.ids := by
  induction trees with
  | nil => simp [idsOf]
  | cons tree rest ih => simp [idsOf, ih]

namespace Host

/-- The children that an element must have: what was made under it and is not deleted, in the
order of the numbers. -/
def kids (h : Host) (p : ElementId) : List ElementId :=
  (List.range h.elements.size).filter fun id =>
    decide ((h.get id).parent = some p ∧ (h.get id).deleted = false)

/-- The elements of a host form a tree that its lists of children describe. -/
structure Consistent (h : Host) : Prop where
  ordered : h.Ordered
  listed : ∀ p, (h.get p).children = h.kids p
  rooted : ∀ id, id < h.elements.size → id ≠ root → (h.get id).parent.isSome = true
  kept : (h.get root).deleted = false

/-- The ways down from an element through lists of children: `h.Descent scope path d` holds if
`d` is strictly below `scope` and `path` are the elements from the parent of `d` up to
`scope`. -/
inductive Descent (h : Host) (scope : ElementId) : List ElementId → ElementId → Prop
  | child {d : ElementId} : d ∈ (h.get scope).children → Descent h scope [scope] d
  | step {path : List ElementId} {p d : ElementId} :
    Descent h scope path p → d ∈ (h.get p).children → Descent h scope (p :: path) d

/-- The element is the root or below it, through lists of children. -/
def Attached (h : Host) (id : ElementId) : Prop :=
  id = root ∨ ∃ path, h.Descent root path id

/-! ## The children that an element must have -/

section

variable {h : Host} {p id : ElementId}

theorem get_update_of_ne (h : Host) {id other : ElementId} (change : Element → Element)
    (hne : id ≠ other) : (h.update id change).get other = h.get other := by
  by_cases hid : id < h.elements.size
  · rw [get_update h id other change hid, if_neg hne]
  · rw [update_of_size_le (Nat.not_lt.mp hid)]

theorem mem_kids_iff :
    id ∈ h.kids p ↔
      id < h.elements.size ∧ (h.get id).parent = some p ∧ (h.get id).deleted = false := by
  simp [kids]

theorem nodup_kids (h : Host) (p : ElementId) : (h.kids p).Nodup :=
  List.nodup_range.filter _

/-- Nothing is under an element that is not there yet. -/
theorem kids_of_size_le (hh : h.Ordered) (hp : h.elements.size ≤ p) : h.kids p = [] := by
  rw [List.eq_nil_iff_forall_not_mem]
  intro id hid
  obtain ⟨hlt, hparent, _⟩ := mem_kids_iff.mp hid
  exact Nat.not_lt.mpr hp (Nat.lt_trans (hh id p hparent) hlt)

theorem kids_update (h : Host) (id p : ElementId) {change : Element → Element}
    (hparent : ∀ e, (change e).parent = e.parent)
    (hdeleted : ∀ e, (change e).deleted = e.deleted) : (h.update id change).kids p = h.kids p := by
  simp only [kids, size_update, field_update h id _ (f := Element.parent) hparent,
    field_update h id _ (f := Element.deleted) hdeleted]

theorem kids_push (h : Host) (e : Element) (p : ElementId) :
    (h.push e).2.kids p =
      h.kids p ++ if e.parent = some p ∧ e.deleted = false then [h.elements.size] else [] := by
  unfold kids
  rw [size_push, List.range_succ, List.filter_append]
  congr 1
  · -- The elements that were there are the same.
    apply List.filter_congr
    intro id hid
    have hne : id ≠ h.elements.size := Nat.ne_of_lt (List.mem_range.mp hid)
    rw [get_push, if_neg hne]
  · rw [List.filter_cons, List.filter_nil, get_push, if_pos rfl]
    simp only [decide_eq_true_eq]

theorem parent_detached (h : Host) (parent id other : ElementId) :
    ((h.detached parent id).get other).parent = (h.get other).parent := by
  refine Eq.trans (field_update _ id other (f := Element.parent) fun _ => rfl) ?_
  exact field_update h parent other (f := Element.parent) fun _ => rfl

theorem children_detached (h : Host) (parent id p : ElementId) :
    ((h.detached parent id).get p).children =
      if parent = p then (h.get p).children.filter (· != id) else (h.get p).children := by
  refine Eq.trans (field_update _ id p (f := Element.children) fun _ => rfl) ?_
  by_cases he : parent = p
  · subst he
    rw [if_pos rfl]
    by_cases hsize : parent < h.elements.size
    · rw [get_update h parent parent _ hsize, if_pos rfl]
    · rw [update_of_size_le (Nat.not_lt.mp hsize), get_of_size_le (Nat.not_lt.mp hsize)]
      rfl
  · rw [get_update_of_ne h _ he, if_neg he]

theorem deleted_detached (h : Host) {parent id other : ElementId} (hne : id ≠ other) :
    ((h.detached parent id).get other).deleted = (h.get other).deleted := by
  unfold detached
  rw [get_update_of_ne _ _ hne]
  exact field_update h parent other (f := Element.deleted) fun _ => rfl

/-- A deletion takes the element out of the list that it is in. -/
theorem kids_detached (h : Host) (parent id p : ElementId) :
    (h.detached parent id).kids p = (h.kids p).filter (· != id) := by
  unfold detached
  -- First the element is taken out of the list of its parent, which changes no parent and no mark.
  generalize hg : (h.update parent fun e =>
    { e with children := e.children.filter (· != id), modified := true }) = g
  have hkids : g.kids p = h.kids p := by
    rw [← hg]
    exact kids_update h parent p (fun _ => rfl) fun _ => rfl
  rw [← hkids]
  unfold kids
  rw [List.filter_filter, size_update]
  apply List.filter_congr
  intro other hother
  by_cases he : id = other
  · subst he
    rw [get_update g id id _ (List.mem_range.mp hother), if_pos rfl]
    simp
  · rw [get_update_of_ne g _ he]
    simp [Ne.symm he]

/-- The store in which a new element has been put below another. -/
def grown (h : Host) (id : ElementId) (e : Element) : Host :=
  (h.push e).2.update id fun p =>
    { p with children := p.children ++ [h.elements.size], modified := true }

theorem get_grown_of_ne (h : Host) {other : ElementId} (e : Element) (hne : id ≠ other) :
    (h.grown id e).get other = (h.push e).2.get other :=
  get_update_of_ne _ _ hne

theorem get_grown (e : Element) (hid : id < h.elements.size) :
    (h.grown id e).get id =
      { h.get id with children := (h.get id).children ++ [h.elements.size], modified := true } := by
  have hlt : id < (h.push e).2.elements.size := by
    rw [size_push]
    exact Nat.lt_succ_of_lt hid
  unfold grown
  rw [get_update _ id id _ hlt, if_pos rfl, get_push, if_neg (Nat.ne_of_lt hid)]

theorem kids_grown (h : Host) (id p : ElementId) (e : Element) :
    (h.grown id e).kids p = (h.push e).2.kids p :=
  kids_update _ id p (fun _ => rfl) fun _ => rfl

end

/-! ## Loaded trees -/

/-- When the topmost element of a tree takes its children, nothing is put under anything. -/
theorem kids_load_mk (h : Host) (parent : Option ElementId) (type : String)
    (name : Option String) (classes : List String) (value : Json) (children : List Description)
    (readOnly : Bool) (p : ElementId) :
    (h.load parent (.mk type name classes value children readOnly)).2.kids p =
      (h.below (sprout parent type name classes value readOnly) children).2.kids p :=
  kids_update _ _ _ (fun _ => rfl) fun _ => rfl

mutual

/-- Loading a tree puts its topmost element under the element that it is loaded under, and
nothing else under the elements that were there. -/
theorem kids_load (h : Host) (parent : Option ElementId) {p : ElementId}
    (hp : p < h.elements.size) : ∀ d : Description,
    (h.load parent d).2.kids p =
      h.kids p ++ if parent = some p then [h.elements.size] else []
  | .mk type name classes value children readOnly => by
    have hbelow := kids_loadAll (h.push (sprout parent type name classes value readOnly)).2
      h.elements.size (p := p) (by rw [size_push]; exact Nat.lt_succ_of_lt hp) children
    rw [if_neg (Nat.ne_of_gt hp), List.append_nil, kids_push] at hbelow
    rw [kids_load_mk, below, hbelow]
    simp only [sprout, and_true]

theorem kids_loadAll (h : Host) (parent : ElementId) {p : ElementId}
    (hp : p < h.elements.size) : ∀ ds : List Description,
    (h.loadAll parent ds).2.kids p =
      h.kids p ++ if parent = p then (h.loadAll parent ds).1 else []
  | [] => by simp [loadAll]
  | d :: rest => by
    have hlt : p < (h.load (some parent) d).2.elements.size := by
      rw [size_load]
      exact Nat.lt_add_right _ hp
    simp only [loadAll]
    rw [kids_loadAll _ parent hlt rest, kids_load h (some parent) hp d, load_fst]
    by_cases he : parent = p
    · subst he
      simp
    · simp [he]

end

mutual

/-- The elements of a tree that has been loaded have the children that they must have. -/
theorem children_load {h : Host} (hh : h.Ordered) {parent : Option ElementId}
    (hparent : h.Lodges parent) {p : ElementId} (hp : h.elements.size ≤ p) : ∀ d : Description,
    ((h.load parent d).2.get p).children = (h.load parent d).2.kids p
  | .mk type name classes value children readOnly => by
    have hpush := hh.push (e := sprout parent type name classes value readOnly) hparent.there
    have htop : h.elements.size <
        (h.push (sprout parent type name classes value readOnly)).2.elements.size := by
      rw [size_push]
      exact Nat.lt_succ_self _
    rw [kids_load_mk, get_load_mk]
    by_cases he : h.elements.size = p
    · -- The topmost element has got what was loaded under it, and had nothing before.
      subst he
      rw [if_pos rfl, below, kids_loadAll _ _ htop, if_pos rfl, kids_push,
        kids_of_size_le hh (Nat.le_refl _), if_neg]
      · rfl
      · rintro ⟨hself, _⟩
        exact Nat.lt_irrefl _ (hparent.there _ hself)
    · rw [if_neg he]
      refine children_loadAll hpush htop ?_ children
      rw [size_push]
      exact Nat.lt_of_le_of_ne hp he

theorem children_loadAll {h : Host} (hh : h.Ordered) {parent : ElementId}
    (hparent : parent < h.elements.size) {p : ElementId} (hp : h.elements.size ≤ p) :
    ∀ ds : List Description,
    ((h.loadAll parent ds).2.get p).children = (h.loadAll parent ds).2.kids p
  | [] => by
    simp only [loadAll]
    rw [get_of_size_le hp, kids_of_size_le hh hp]
    rfl
  | d :: rest => by
    have hload := Ordered.keptByLoading.load hh (.some hparent) d trivial
    have hlt : parent < (h.load (some parent) d).2.elements.size := by
      rw [size_load]
      exact Nat.lt_add_right _ hparent
    simp only [loadAll]
    by_cases hnew : p < (h.load (some parent) d).2.elements.size
    · -- The other trees leave the first one alone.
      have hne : parent ≠ p := Nat.ne_of_lt (Nat.lt_of_lt_of_le hparent hp)
      rw [get_loadAll_of_lt _ _ hnew, kids_loadAll _ _ hnew, if_neg hne, List.append_nil]
      exact children_load hh (.some hparent) hp d
    · exact children_loadAll hload hlt (Nat.not_lt.mp hnew) rest

end

/-! ## Ways down -/

namespace Descent

variable {h : Host} {scope top d : ElementId} {path : List ElementId}

/-- A way down from a child is one from its parent. -/
theorem prepend (hd : h.Descent top path d) (htop : top ∈ (h.get scope).children) :
    h.Descent scope (path ++ [scope]) d := by
  induction hd with
  | child hchild => exact .step (.child htop) hchild
  | step _ hchild ih => exact .step ih hchild

/-- A way down ends in a list of children. -/
theorem exists_mem_children (hd : h.Descent scope path d) : ∃ p, d ∈ (h.get p).children := by
  cases hd with
  | child hchild => exact ⟨scope, hchild⟩
  | step _ hchild => exact ⟨_, hchild⟩

end Descent

/-- What hangs in the tree without being the root hangs in a list of children. -/
theorem attached_iff_mem_children {h : Host} {id : ElementId} (hroot : id ≠ root) :
    h.Attached id ↔ ∃ p, h.Attached p ∧ id ∈ (h.get p).children := by
  constructor
  · rintro (rfl | ⟨path, hd⟩)
    · exact absurd rfl hroot
    · cases hd with
      | child hchild => exact ⟨root, .inl rfl, hchild⟩
      | step hd hchild => exact ⟨_, .inr ⟨_, hd⟩, hchild⟩
  · rintro ⟨p, rfl | ⟨path, hd⟩, hchild⟩
    · exact .inr ⟨_, .child hchild⟩
    · exact .inr ⟨_, .step hd hchild⟩

/-- What a snapshot shows is its topmost element or below it. -/
theorem descent_of_mem_ids {h : Host} {id : ElementId} : ∀ {depth : Nat} {top : ElementId},
    id ∈ (h.snapshotWithin depth top).ids → id = top ∨ ∃ path, h.Descent top path id
  | 0, top, hid => by
    simp only [snapshotWithin, Snapshot.ids, Snapshot.idsOf, List.mem_singleton] at hid
    exact .inl hid
  | depth + 1, top, hid => by
    simp only [snapshotWithin, Snapshot.ids, List.mem_cons, Snapshot.mem_idsOf_iff,
      List.mem_map] at hid
    obtain rfl | ⟨_, ⟨c, hc, rfl⟩, hid⟩ := hid
    · exact .inl rfl
    · right
      obtain rfl | ⟨path, hd⟩ := descent_of_mem_ids hid
      · exact ⟨[top], .child hc⟩
      · exact ⟨path ++ [top], hd.prepend hc⟩

/-! ## Hosts that hold a tree -/

namespace Consistent

variable {h h' : Host} {scope p id : ElementId} {path : List ElementId}

theorem mem_children_iff (hh : h.Consistent) : id ∈ (h.get p).children ↔
    id < h.elements.size ∧ (h.get id).parent = some p ∧ (h.get id).deleted = false := by
  rw [hh.listed]
  exact mem_kids_iff

theorem nodup_children (hh : h.Consistent) (p : ElementId) : (h.get p).children.Nodup := by
  rw [hh.listed]
  exact nodup_kids h p

/-- The root is below nothing. -/
theorem root_not_mem_children (hh : h.Consistent) (p : ElementId) :
    root ∉ (h.get p).children := by
  intro hmem
  have hparent := (hh.mem_children_iff.mp hmem).2.1
  exact Nat.not_lt_zero p (hh.ordered root p hparent)

/-- **What hangs in the tree.** An element is reached from the root through lists of children
exactly if it is not deleted and nothing above it is. -/
theorem attached_iff (hh : h.Consistent) : ∀ {id : ElementId}, id < h.elements.size →
    (h.Attached id ↔
      (h.get id).deleted = false ∧ ∀ a, h.Above a id → (h.get a).deleted = false) := by
  intro id
  induction id using Nat.strongRecOn with
  | ind id ih =>
    intro hid
    by_cases hroot : id = root
    · -- There is nothing above the root.
      subst hroot
      have hnone : ∀ a, ¬ h.Above a root := fun a ha => Nat.not_lt_zero a (ha.lt hh.ordered)
      exact iff_of_true (.inl rfl) ⟨hh.kept, fun a ha => absurd ha (hnone a)⟩
    · obtain ⟨p, hp⟩ := Option.isSome_iff_exists.mp (hh.rooted id hid hroot)
      have hlt : p < id := hh.ordered id p hp
      have hparent := ih p hlt (Nat.lt_trans hlt hid)
      -- It is reached if its parent is and it stands in the list of its parent.
      have hstep : h.Attached id ↔ (h.get id).deleted = false ∧ h.Attached p := by
        rw [attached_iff_mem_children hroot]
        simp only [hh.mem_children_iff, hp, Option.some.injEq]
        constructor
        · rintro ⟨_, hattached, _, rfl, hdeleted⟩
          exact ⟨hdeleted, hattached⟩
        · rintro ⟨hdeleted, hattached⟩
          exact ⟨p, hattached, hid, rfl, hdeleted⟩
      rw [hstep, hparent]
      refine and_congr Iff.rfl ?_
      constructor
      · rintro ⟨hdeleted, habove⟩ a ha
        obtain rfl | ha := (above_iff hp).mp ha
        · exact hdeleted
        · exact habove a ha
      · intro habove
        exact ⟨habove p (.parent hp), fun a ha => habove a (.step hp ha)⟩

/-! ### Operations -/

theorem update (hh : h.Consistent) (id : ElementId) {change : Element → Element}
    (hparent : ∀ e, (change e).parent = e.parent) (hdeleted : ∀ e, (change e).deleted = e.deleted)
    (hchildren : ∀ e, (change e).children = e.children) : (h.update id change).Consistent where
  ordered := hh.ordered.update id hparent
  listed p := by
    rw [kids_update h id p hparent hdeleted, field_update h id p (f := Element.children) hchildren]
    exact hh.listed p
  rooted other hother hroot := by
    rw [size_update] at hother
    rw [field_update h id other (f := Element.parent) hparent]
    exact hh.rooted other hother hroot
  kept := by
    rw [field_update h id root (f := Element.deleted) hdeleted]
    exact hh.kept

theorem set {v : Value} (hh : h.Consistent) (hset : h.set id v = .ok h') : h'.Consistent := by
  obtain ⟨_, rfl⟩ := set_eq_ok_iff.mp hset
  exact hh.update id (fun _ => rfl) (fun _ => rfl) fun _ => rfl

theorem merge {v : Value} (hh : h.Consistent) (hmerge : h.merge id v = .ok h') :
    h'.Consistent := by
  obtain ⟨_, rfl⟩ := merge_eq_ok_iff.mp hmerge
  exact hh.update id (fun _ => rfl) (fun _ => rfl) fun _ => rfl

/-- Deletion takes an element out of the one list that it is in. -/
theorem delete {held : List ElementId} (hh : h.Consistent)
    (hdelete : h.delete held id = .ok h') : h'.Consistent := by
  obtain ⟨_, parent, hparent?, rfl⟩ := delete_eq_ok_iff.mp hdelete
  have hparent : (h.get id).parent = some parent := (Option.filter_eq_some_iff.mp hparent?).1
  refine ⟨?ordered, ?listed, ?rooted, ?kept⟩
  case ordered =>
    intro other p hp
    rw [parent_detached] at hp
    exact hh.ordered other p hp
  case listed =>
    intro p
    rw [children_detached, kids_detached, ← hh.listed]
    by_cases he : parent = p
    · rw [if_pos he]
    · -- The element stands in no other list.
      rw [if_neg he, List.filter_eq_self.mpr]
      intro other hother
      have hother' := (hh.mem_children_iff.mp hother).2.1
      have hne : other ≠ id := by
        rintro rfl
        rw [hparent] at hother'
        exact he (Option.some.inj hother')
      simpa using hne
  case rooted =>
    intro other hother hroot
    rw [parent_detached]
    refine hh.rooted other ?_ hroot
    simpa [detached] using hother
  case kept =>
    -- The root has no parent, so it is not what has been deleted.
    have hne : id ≠ root := by
      rintro rfl
      exact Nat.not_lt_zero parent (hh.ordered root parent hparent)
    rw [deleted_detached h hne]
    exact hh.kept

/-- A new element hangs behind the other children of the one that it is added to. -/
theorem add {tag : String} {child : ElementId} (hh : h.Consistent) (hid : id < h.elements.size)
    (hadd : h.add id tag = .ok (child, h')) : h'.Consistent := by
  obtain ⟨_, rfl, v, _, rfl⟩ := add_eq_ok_iff.mp hadd
  show (h.grown id (seedling id tag v)).Consistent
  generalize he : seedling id tag v = e
  have hparent : e.parent = some id := by rw [← he]; rfl
  have hdeleted : e.deleted = false := by rw [← he]; rfl
  have hchildren : e.children = [] := by rw [← he]; rfl
  refine ⟨?ordered, ?listed, ?rooted, ?kept⟩
  case ordered =>
    have hpush : (h.push e).2.Ordered := by
      refine hh.ordered.push fun p hp => ?_
      rw [hparent] at hp
      cases hp
      exact hid
    exact hpush.update id fun _ => rfl
  case listed =>
    intro p
    rw [kids_grown, kids_push, ← hh.listed]
    by_cases hp : id = p
    · -- The list that the new element is put into, which has its number at the end.
      subst hp
      rw [get_grown e hid, if_pos ⟨hparent, hdeleted⟩]
    · have hother : ¬ (e.parent = some p ∧ e.deleted = false) := by
        rw [hparent]
        exact fun hp' => hp (Option.some.inj hp'.1)
      rw [get_grown_of_ne h e hp, if_neg hother, List.append_nil, get_push]
      by_cases hnew : p = h.elements.size
      · -- Nothing is below the new element.
        rw [if_pos hnew, hchildren, hh.listed, kids_of_size_le hh.ordered (Nat.le_of_eq hnew.symm)]
      · rw [if_neg hnew]
  case rooted =>
    intro other hother hroot
    have hlt : other < h.elements.size + 1 := by simpa [grown] using hother
    have hsame : ((h.grown id e).get other).parent = ((h.push e).2.get other).parent :=
      field_update _ id other (f := Element.parent) fun _ => rfl
    rw [hsame, get_push]
    by_cases hnew : other = h.elements.size
    · rw [if_pos hnew, hparent]
      rfl
    · rw [if_neg hnew]
      exact hh.rooted other (Nat.lt_of_le_of_ne (Nat.le_of_lt_succ hlt) hnew) hroot
  case kept =>
    have hroot : root ≠ h.elements.size := Nat.ne_of_lt (Nat.lt_of_le_of_lt (Nat.zero_le id) hid)
    have hsame : ((h.grown id e).get root).deleted = ((h.push e).2.get root).deleted :=
      field_update _ id root (f := Element.deleted) fun _ => rfl
    rw [hsame, get_push, if_neg hroot]
    exact hh.kept

end Consistent

/-- The host of a described tree holds a tree. -/
theorem consistent_ofDescription (kinds : Kinds) (d : Description) :
    (ofDescription kinds d).Consistent := by
  have hlisted : ∀ p, ((ofDescription kinds d).get p).children = (ofDescription kinds d).kids p :=
    fun p => children_load (.empty kinds) (.empty kinds) (Nat.zero_le p) d
  -- Every element is met on the way down from the root, so it stands in a list of children.
  have hkids : ∀ id, id < (ofDescription kinds d).elements.size → id ≠ root →
      ∃ p, id ∈ (ofDescription kinds d).kids p := by
    intro id hid hroot
    have hmem : id ∈ ((ofDescription kinds d).snapshot root).ids := by
      rw [ids_snapshot_ofDescription, List.mem_range'_1, ← size_ofDescription kinds d]
      exact ⟨Nat.zero_le id, by rw [root, Nat.zero_add]; exact hid⟩
    obtain rfl | ⟨path, hd⟩ := descent_of_mem_ids hmem
    · exact absurd rfl hroot
    · obtain ⟨p, hp⟩ := hd.exists_mem_children
      exact ⟨p, hlisted p ▸ hp⟩
  refine ⟨ordered_ofDescription kinds d, hlisted, ?rooted, ?kept⟩
  case rooted =>
    intro id hid hroot
    obtain ⟨p, hp⟩ := hkids id hid hroot
    rw [(mem_kids_iff.mp hp).2.1]
    rfl
  case kept =>
    obtain ⟨type, name, classes, value, children, readOnly⟩ := d
    have hroot : (empty kinds).elements.size = root := rfl
    rw [ofDescription, get_load_mk, if_pos hroot]
    exact congrArg Element.deleted (get_loadAll_of_lt _ _ (Nat.zero_lt_one) children)

/-- Operations make hosts that hold a tree from hosts that do. -/
theorem Reached.consistent {start h : Host} (hr : Reached start h) (hstart : start.Consistent) :
    h.Consistent := by
  induction hr with
  | start => exact hstart
  | set _ hset ih => exact ih.set hset
  | merge _ hmerge ih => exact ih.merge hmerge
  | delete _ hdelete ih => exact ih.delete hdelete
  | add _ hid hadd ih => exact ih.add hid hadd
  | setReadOnly id on _ ih => exact ih.update id (fun _ => rfl) (fun _ => rfl) fun _ => rfl

end Host

end Graft
