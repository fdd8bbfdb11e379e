import Graft.Proofs.Host.Tree

/-!
The walk down a tree.

A walk goes through lists of children, depth first, and meets every element before what is
below it. It says of each element what has been passed on the way down, the nearest first.
In a host that holds a tree, the walk below an element ends, meets exactly what is below it
by way of lists of children, and meets nothing twice. A snapshot shows what the walk meets.
-/

set_option autoImplicit false

namespace Graft.Host

/-- The walk through elements in a list that stands below a path: every element is met with
the path above it, then what is below it is walked through, then the rest of the list. -/
inductive Walk (h : Host) : (path ids : List ElementId) → List (List ElementId × ElementId) → Prop
  | nil {path : List ElementId} : Walk h path [] []
  | cons {path rest : List ElementId} {id : ElementId}
    {inner others : List (List ElementId × ElementId)} :
    Walk h (id :: path) (h.get id).children inner → Walk h path rest others →
    Walk h path (id :: rest) ((path, id) :: inner ++ others)

namespace Walk

section

variable {h : Host} {path ids : List ElementId} {walk : List (List ElementId × ElementId)}

/-- What holds of the elements of the list, and of the children of whatever it holds of, holds
of all that is met. -/
theorem forall_mem {Q : List ElementId → ElementId → Prop}
    (hstep : ∀ {q p c}, Q q p → c ∈ (h.get p).children → Q (p :: q) c)
    (hw : h.Walk path ids walk) (hids : ∀ id ∈ ids, Q path id) :
    ∀ q d, (q, d) ∈ walk → Q q d := by
  induction hw with
  | nil => simp
  | cons _ _ ihinner ihothers =>
    intro q d hmem
    have hid := hids _ (List.mem_cons_self)
    simp only [List.cons_append, List.mem_cons, Prod.mk.injEq, List.mem_append] at hmem
    obtain ⟨rfl, rfl⟩ | hmem | hmem := hmem
    · exact hid
    · exact ihinner (fun c hc => hstep hid hc) q d hmem
    · exact ihothers (fun id' hid' => hids id' (List.mem_cons_of_mem _ hid')) q d hmem

theorem mem_of_mem (hw : h.Walk path ids walk) {id : ElementId} (hid : id ∈ ids) :
    (path, id) ∈ walk := by
  induction hw with
  | nil => cases hid
  | cons _ _ _ ihothers =>
    simp only [List.cons_append, List.mem_cons, Prod.mk.injEq, List.mem_append]
    obtain rfl | hid := List.mem_cons.mp hid
    · exact .inl ⟨trivial, rfl⟩
    · exact .inr (.inr (ihothers hid))

/-- The children of what is met are met. -/
theorem mem_of_mem_children (hw : h.Walk path ids walk) {q : List ElementId} {p c : ElementId}
    (hp : (q, p) ∈ walk) (hc : c ∈ (h.get p).children) : (p :: q, c) ∈ walk := by
  induction hw with
  | nil => cases hp
  | cons hinner _ ihinner ihothers =>
    simp only [List.cons_append, List.mem_cons, Prod.mk.injEq, List.mem_append] at hp
    rw [List.cons_append]
    refine List.mem_cons_of_mem _ (List.mem_append.mpr ?_)
    obtain ⟨rfl, rfl⟩ | hp | hp := hp
    · exact .inl (hinner.mem_of_mem hc)
    · exact .inl (ihinner hp)
    · exact .inr (ihothers hp)

/-- The walk below an element meets what ways down lead to. -/
theorem mem_iff_descent {scope : ElementId} (hw : h.Walk [scope] (h.get scope).children walk)
    (q : List ElementId) (d : ElementId) : (q, d) ∈ walk ↔ h.Descent scope q d := by
  constructor
  · exact hw.forall_mem (fun hq hc => Descent.step hq hc) (fun _ hc => Descent.child hc) q d
  · intro hd
    induction hd with
    | child hc => exact hw.mem_of_mem hc
    | step _ hc ih => exact hw.mem_of_mem_children ih hc

/-- What is met is in the list or below it. -/
theorem mem_or_above (hh : h.Consistent) (hw : h.Walk path ids walk) :
    ∀ q d, (q, d) ∈ walk → d ∈ ids ∨ ∃ id ∈ ids, h.Above id d := by
  refine hw.forall_mem (Q := fun _ d => d ∈ ids ∨ ∃ id ∈ ids, h.Above id d) ?_ fun _ hid => .inl hid
  rintro _ p c (hp | ⟨id, hid, hp⟩) hc
  · exact .inr ⟨p, hp, .parent (hh.mem_children_iff.mp hc).2.1⟩
  · exact .inr ⟨id, hid, .step (hh.mem_children_iff.mp hc).2.1 hp⟩

end

end Walk

theorem Above.trans {h : Host} {a b id : ElementId} (hab : h.Above a b) (hb : h.Above b id) :
    h.Above a id := by
  induction hb with
  | parent hp => exact .step hp hab
  | step hp _ ih => exact .step hp ih

/-- Of two elements above a third, one is above the other, or they are the same. -/
theorem Above.linear {h : Host} {a b id : ElementId} (ha : h.Above a id) (hb : h.Above b id) :
    a = b ∨ h.Above a b ∨ h.Above b a := by
  induction ha with
  | parent hp =>
    obtain rfl | hb := (above_iff hp).mp hb
    · exact .inl rfl
    · exact .inr (.inr hb)
  | step hp ha ih =>
    obtain rfl | hb := (above_iff hp).mp hb
    · exact .inr (.inl ha)
    · exact ih hb

namespace Consistent

variable {h : Host} {parent id other : ElementId} {path ids : List ElementId}

/-- Nothing is below two children of one element, and none of them is below another. -/
theorem not_above_sibling (hh : h.Consistent) (hid : (h.get id).parent = some parent)
    (hother : (h.get other).parent = some parent) : ¬ h.Above id other := by
  intro ha
  obtain rfl | ha := (above_iff hother).mp ha
  · exact Nat.lt_irrefl _ (hh.ordered id id hid)
  · exact Nat.lt_asymm (ha.lt hh.ordered) (hh.ordered id parent hid)

/-- **No element is met twice.** -/
theorem nodup_walk (hh : h.Consistent) {walk : List (List ElementId × ElementId)}
    (hw : h.Walk path ids walk) (hids : ids.Nodup)
    (hparent : ∀ id ∈ ids, (h.get id).parent = some parent) : (walk.map Prod.snd).Nodup := by
  induction hw generalizing parent with
  | nil => exact List.nodup_nil
  | @cons path rest id inner others hinner hothers ihinner ihothers =>
    obtain ⟨hnotmem, hrest⟩ := List.nodup_cons.mp hids
    have hid := hparent id List.mem_cons_self
    have hparents : ∀ c ∈ (h.get id).children, (h.get c).parent = some id :=
      fun c hc => (hh.mem_children_iff.mp hc).2.1
    have hsiblings : ∀ c ∈ rest, (h.get c).parent = some parent :=
      fun c hc => hparent c (List.mem_cons_of_mem _ hc)
    -- Below the first element is what it is above of, and it is above nothing else.
    have hbelow : ∀ d ∈ inner.map Prod.snd, h.Above id d := by
      intro d hd
      obtain ⟨⟨q, _⟩, hmem, rfl⟩ := List.mem_map.mp hd
      obtain hc | ⟨c, hc, ha⟩ := hinner.mem_or_above hh q _ hmem
      · exact .parent (hparents _ hc)
      · exact (Above.parent (hparents c hc)).trans ha
    have hbeside : ∀ d ∈ others.map Prod.snd, d ≠ id ∧ ¬ h.Above id d := by
      intro d hd
      obtain ⟨⟨q, _⟩, hmem, rfl⟩ := List.mem_map.mp hd
      obtain hc | ⟨c, hc, ha⟩ := hothers.mem_or_above hh q _ hmem
      · exact ⟨fun he => hnotmem (he ▸ hc), hh.not_above_sibling hid (hsiblings _ hc)⟩
      · refine ⟨fun he => hh.not_above_sibling (hsiblings c hc) hid (he ▸ ha), fun hid' => ?_⟩
        obtain rfl | hlin | hlin := hid'.linear ha
        · exact hnotmem hc
        · exact hh.not_above_sibling hid (hsiblings c hc) hlin
        · exact hh.not_above_sibling (hsiblings c hc) hid hlin
    rw [List.cons_append, List.map_cons, List.map_append, List.nodup_cons, List.nodup_append]
    refine ⟨?_, ihinner (hh.nodup_children id) hparents, ihothers hrest hsiblings, ?_⟩
    · rw [List.mem_append]
      rintro (hmem | hmem)
      · exact Nat.lt_irrefl _ ((hbelow id hmem).lt hh.ordered)
      · exact (hbeside id hmem).1 rfl
    · rintro d hd _ hd' rfl
      exact (hbeside d hd').2 (hbelow d hd)

/-- The walk through any list comes to an end. -/
theorem exists_walk (hh : h.Consistent) (path ids : List ElementId) :
    ∃ walk, h.Walk path ids walk := by
  -- A list is walked through if what is below each of its elements is.
  have hlist : ∀ (path ids : List ElementId),
      (∀ id ∈ ids, ∀ path, ∃ inner, h.Walk path (h.get id).children inner) →
      ∃ walk, h.Walk path ids walk := by
    intro path ids hids
    induction ids with
    | nil => exact ⟨[], .nil⟩
    | cons id rest ih =>
      obtain ⟨inner, hinner⟩ := hids id List.mem_cons_self (id :: path)
      obtain ⟨others, hothers⟩ := ih fun c hc => hids c (List.mem_cons_of_mem _ hc)
      exact ⟨_, .cons hinner hothers⟩
  -- Children have greater numbers, so the induction is on how many numbers are left.
  have hchildren : ∀ (left : Nat) (id : ElementId), h.elements.size ≤ left + id →
      ∀ path, ∃ inner, h.Walk path (h.get id).children inner := by
    intro left
    induction left with
    | zero =>
      intro id hsize path
      refine hlist path _ fun c hc => ?_
      obtain ⟨hlt, hparent, _⟩ := hh.mem_children_iff.mp hc
      have hgt : id < c := hh.ordered c id hparent
      rw [Nat.zero_add] at hsize
      exact absurd (Nat.lt_trans hgt hlt) (Nat.not_lt.mpr hsize)
    | succ left ih =>
      intro id hsize path
      refine hlist path _ fun c hc => ih c ?_
      have hgt : id < c := hh.ordered c id (hh.mem_children_iff.mp hc).2.1
      refine Nat.le_trans hsize ?_
      rw [Nat.add_right_comm]
      exact Nat.add_le_add_left hgt left
  exact hlist path ids fun id _ => hchildren h.elements.size id (Nat.le_add_right _ _)

/-! ### Snapshots -/

/-- A snapshot that is deep enough for an element is deep enough for its children, one level
further down, as they have greater numbers. -/
theorem deep_enough (hh : h.Consistent) {depth : Nat} (hdepth : h.elements.size ≤ depth + 1 + id) :
    ∀ c ∈ (h.get id).children, h.elements.size ≤ depth + c := by
  intro c hc
  have hgt : id < c := hh.ordered c id (hh.mem_children_iff.mp hc).2.1
  refine Nat.le_trans hdepth ?_
  rw [Nat.add_right_comm]
  exact Nat.add_le_add_left hgt depth

/-- Snapshots that are deep enough show what the walk meets. -/
theorem idsOf_snapshots (hh : h.Consistent) {walk : List (List ElementId × ElementId)}
    (hw : h.Walk path ids walk) {depth : Nat} (hids : ∀ id ∈ ids, id < h.elements.size)
    (hdepth : ∀ id ∈ ids, h.elements.size ≤ depth + id) :
    Snapshot.idsOf (ids.map (h.snapshotWithin depth)) = walk.map Prod.snd := by
  induction hw generalizing depth with
  | nil => rfl
  | @cons path rest id inner others _ _ ihinner ihothers =>
    have hothers := ihothers (fun c hc => hids c (List.mem_cons_of_mem _ hc))
      fun c hc => hdepth c (List.mem_cons_of_mem _ hc)
    have hsize := hdepth id List.mem_cons_self
    cases depth with
    | zero =>
      -- The numbers of the elements are below the size of the store.
      rw [Nat.zero_add] at hsize
      exact absurd (hids id List.mem_cons_self) (Nat.not_lt.mpr hsize)
    | succ depth =>
      have hinner := ihinner (fun c hc => (hh.mem_children_iff.mp hc).1) (hh.deep_enough hsize)
      rw [List.map_cons, Snapshot.idsOf, hothers, snapshotWithin, Snapshot.ids, hinner,
        List.cons_append, List.cons_append, List.map_cons, List.map_append]

/-- A snapshot shows its topmost element and what the walk below it meets. -/
theorem ids_snapshot (hh : h.Consistent) (hid : id < h.elements.size) :
    ∃ walk, h.Walk [id] (h.get id).children walk ∧
      (h.snapshot id).ids = id :: walk.map Prod.snd := by
  obtain ⟨walk, hw⟩ := hh.exists_walk [id] (h.get id).children
  refine ⟨walk, hw, ?_⟩
  obtain ⟨depth, hsize⟩ : ∃ depth, h.elements.size = depth + 1 :=
    Nat.exists_eq_add_one.mpr (Nat.lt_of_le_of_lt (Nat.zero_le id) hid)
  have hdepth : h.elements.size ≤ depth + 1 + id := by omega
  rw [snapshot, hsize, snapshotWithin, Snapshot.ids, hh.idsOf_snapshots hw
    (fun c hc => (hh.mem_children_iff.mp hc).1) (hh.deep_enough hdepth)]

/-- The tree of a host shows what hangs in it. -/
theorem mem_ids_snapshot_iff (hh : h.Consistent) (hroot : root < h.elements.size) :
    id ∈ (h.snapshot root).ids ↔ h.Attached id := by
  obtain ⟨walk, hw, hids⟩ := hh.ids_snapshot hroot
  rw [hids, List.mem_cons, Attached]
  refine or_congr Iff.rfl ?_
  simp only [List.mem_map, Prod.exists, exists_eq_right, hw.mem_iff_descent]

/-- It shows nothing twice. -/
theorem nodup_ids_snapshot (hh : h.Consistent) (hroot : root < h.elements.size) :
    (h.snapshot root).ids.Nodup := by
  obtain ⟨walk, hw, hids⟩ := hh.ids_snapshot hroot
  rw [hids, List.nodup_cons]
  constructor
  · -- The root is below nothing.
    simp only [List.mem_map, Prod.exists, exists_eq_right, hw.mem_iff_descent]
    rintro ⟨path, hd⟩
    obtain ⟨p, hp⟩ := hd.exists_mem_children
    exact hh.root_not_mem_children p hp
  · exact hh.nodup_walk hw (hh.nodup_children root) fun c hc => (hh.mem_children_iff.mp hc).2.1

end Consistent

end Graft.Host
