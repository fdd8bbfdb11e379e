import Graft.Host.Snapshot
import Graft.Proofs.Host.Ancestry

/-!
The host of a described tree.

Loading puts the elements of a tree into the store in the order in which the tree is read,
an element before what is below it. So the elements of a loaded tree are numbered in that
order, and walking the tree down again shows the described tree with these numbers.
-/

set_option autoImplicit false

namespace Graft

mutual

/-- The number of elements of a described tree. -/
def Description.count : Description → Nat
  | .mk _ _ _ _ children _ => Description.countAll children + 1

/-- The number of elements of described trees. -/
def Description.countAll : List Description → Nat
  | [] => 0
  | d :: rest => d.count + Description.countAll rest

end

mutual

/-- No element of a described tree is read-only. -/
def Description.Writable : Description → Prop
  | .mk _ _ _ _ children readOnly => readOnly = false ∧ Description.WritableAll children

/-- No element of described trees is read-only. -/
def Description.WritableAll : List Description → Prop
  | [] => True
  | d :: rest => d.Writable ∧ Description.WritableAll rest

end

theorem Description.writableAll_iff {ds : List Description} :
    WritableAll ds ↔ ∀ d ∈ ds, d.Writable := by
  induction ds with
  | nil => simp [WritableAll]
  | cons d rest ih => simp [WritableAll, ih]

namespace Host

/-- An element as it is loaded, before what is below it. -/
def sprout (parent : Option ElementId) (type : String) (name : Option String)
    (classes : List String) (value : Json) (readOnly : Bool) : Element :=
  { type, name, classes, value := Value.ofJson value, parent, children := [],
    modified := false, deleted := false, readOnly }

section

variable {h : Host} {parent : Option ElementId} {type : String} {name : Option String}
  {classes : List String} {value : Json} {children : List Description} {readOnly : Bool}

/-- A tree is loaded as its topmost element, then what is below it, which the topmost element
then takes as its children. -/
theorem load_mk : h.load parent (.mk type name classes value children readOnly) =
    let below := (h.push (sprout parent type name classes value readOnly)).2.loadAll
      h.elements.size children
    (h.elements.size, below.2.update h.elements.size fun e => { e with children := below.1 }) :=
  rfl

end

theorem load_fst (h : Host) (parent : Option ElementId) :
    ∀ d : Description, (h.load parent d).1 = h.elements.size
  | .mk _ _ _ _ _ _ => rfl

/-! ## The numbers of loaded elements -/

mutual

@[simp] theorem size_load (h : Host) (parent : Option ElementId) :
    ∀ d : Description, (h.load parent d).2.elements.size = h.elements.size + d.count
  | .mk type name classes value children readOnly => by
    rw [load_mk, size_update, size_loadAll, size_push, Description.count]
    omega

@[simp] theorem size_loadAll (h : Host) (parent : ElementId) : ∀ ds : List Description,
    (h.loadAll parent ds).2.elements.size = h.elements.size + Description.countAll ds
  | [] => rfl
  | d :: rest => by
    simp only [loadAll, Description.countAll]
    rw [size_loadAll, size_load]
    omega

end

/-- The store in which what is below a topmost element has been loaded, and the topmost element
has no children yet. -/
def below (h : Host) (root : Element) (children : List Description) : List ElementId × Host :=
  (h.push root).2.loadAll h.elements.size children

@[simp] theorem size_below (h : Host) (root : Element) (children : List Description) :
    (h.below root children).2.elements.size =
      h.elements.size + 1 + Description.countAll children := by
  rw [below, size_loadAll, size_push]

/-- The elements of a tree that has been loaded: its topmost one has got its children. -/
theorem get_load_mk (h : Host) (parent : Option ElementId) (type : String) (name : Option String)
    (classes : List String) (value : Json) (children : List Description) (readOnly : Bool)
    (id : ElementId) :
    (h.load parent (.mk type name classes value children readOnly)).2.get id =
      let below := h.below (sprout parent type name classes value readOnly) children
      if h.elements.size = id then { below.2.get id with children := below.1 }
      else below.2.get id := by
  have hlt : h.elements.size <
      (h.below (sprout parent type name classes value readOnly) children).2.elements.size := by
    rw [size_below]
    omega
  exact get_update _ _ _ _ hlt

mutual

/-- Loading leaves the elements that were there alone. -/
theorem get_load_of_lt (h : Host) (parent : Option ElementId) {id : ElementId}
    (hid : id < h.elements.size) : ∀ d : Description, (h.load parent d).2.get id = h.get id
  | .mk type name classes value children readOnly => by
    have hne : ¬ h.elements.size = id := Nat.ne_of_gt hid
    rw [get_load_mk, if_neg hne, below, get_loadAll_of_lt _ _ _ children, get_push,
      if_neg (Ne.symm hne)]
    rw [size_push]
    exact Nat.lt_succ_of_lt hid

/-- Loading changes none of the elements that are there. -/
theorem get_loadAll_of_lt (h : Host) (parent : ElementId) {id : ElementId}
    (hid : id < h.elements.size) :
    ∀ ds : List Description, (h.loadAll parent ds).2.get id = h.get id
  | [] => rfl
  | d :: rest => by
    have hlt : id < (h.load (some parent) d).2.elements.size := by
      rw [size_load]
      exact Nat.lt_add_right _ hid
    simp only [loadAll]
    rw [get_loadAll_of_lt _ parent hlt rest, get_load_of_lt h _ hid d]

end

/-! ## Walking down a loaded tree -/

mutual

/-- The snapshot of a described tree whose elements are numbered from `n` on, an element before
what is below it. -/
def numbered (parent : Option ElementId) (n : ElementId) : Description → Snapshot
  | .mk type name classes value children readOnly =>
    let e := sprout parent type name classes value readOnly
    let trees := numberedAll n (n + 1) children
    .node n { e with children := trees.map Snapshot.id } trees

/-- The snapshots of described trees under an element, numbered one after the other. -/
def numberedAll (parent n : ElementId) : List Description → List Snapshot
  | [] => []
  | d :: rest => numbered (some parent) n d :: numberedAll parent (n + d.count) rest

end

mutual

/-- In pre-order, the elements of a description have the next numbers. -/
theorem ids_numbered (parent : Option ElementId) (n : ElementId) :
    ∀ d : Description, (numbered parent n d).ids = List.range' n d.count
  | .mk type name classes value children readOnly => by
    rw [numbered, Snapshot.ids, idsOf_numberedAll, Description.count, List.range'_succ]

theorem idsOf_numberedAll (parent n : ElementId) : ∀ ds : List Description,
    Snapshot.idsOf (numberedAll parent n ds) = List.range' n (Description.countAll ds)
  | [] => rfl
  | d :: rest => by
    rw [numberedAll, Snapshot.idsOf, ids_numbered, idsOf_numberedAll, Description.countAll,
      List.range'_append_1]

end

theorem id_snapshotWithin (h : Host) (id : ElementId) :
    ∀ depth : Nat, (h.snapshotWithin depth id).id = id
  | 0 => rfl
  | _ + 1 => rfl

/-- Snapshots are those of the elements that were asked for, in their order. -/
theorem map_id_snapshots (h : Host) (depth : Nat) (ids : List ElementId) :
    (ids.map (h.snapshotWithin depth)).map Snapshot.id = ids := by
  have hid : Snapshot.id ∘ h.snapshotWithin depth = id :=
    funext fun top => id_snapshotWithin h top depth
  rw [List.map_map, hid, List.map_id]

mutual

/-- Walking down from a loaded element shows the tree that was loaded, in any host that has kept
its elements. -/
theorem snapshot_load (h : Host) (parent : Option ElementId) {g : Host} :
    ∀ (d : Description) {depth : Nat}, d.count ≤ depth →
    (∀ id, h.elements.size ≤ id → id < h.elements.size + d.count →
      g.get id = (h.load parent d).2.get id) →
    g.snapshotWithin depth h.elements.size = numbered parent h.elements.size d
  | .mk _ _ _ _ _ _, 0, hdepth, _ => by
    simp [Description.count] at hdepth
  | .mk type name classes value children readOnly, depth + 1, hdepth, hsame => by
    have hcount : Description.countAll children ≤ depth := Nat.le_of_succ_le_succ hdepth
    let e := sprout parent type name classes value readOnly
    -- The topmost element has not changed but for its children, which were loaded below it.
    have htop : g.get h.elements.size = { e with children := (h.below e children).1 } := by
      have hcount' : h.elements.size <
          h.elements.size + (Description.mk type name classes value children readOnly).count := by
        rw [Description.count]
        omega
      have hlt : h.elements.size < (h.push e).2.elements.size := by
        rw [size_push]
        exact Nat.lt_succ_self _
      have hsprout : (h.below e children).2.get h.elements.size = e := by
        rw [below, get_loadAll_of_lt _ _ hlt, get_push, if_pos rfl]
      rw [hsame _ (Nat.le_refl _) hcount', get_load_mk, if_pos rfl]
      simp only [e] at hsprout ⊢
      rw [hsprout]
    -- What is below it was loaded behind it, and has not changed since.
    have hbelow := snapshots_loadAll (h.push e).2 h.elements.size children hcount
      (g := g) fun id hle hlt => by
        rw [size_push] at hle hlt
        have hne : ¬ h.elements.size = id := by omega
        rw [hsame id (by omega) (by rw [Description.count]; omega), get_load_mk, if_neg hne]
        rfl
    rw [size_push] at hbelow
    rw [snapshotWithin, htop, numbered, ← hbelow, map_id_snapshots]
    rfl

/-- A host that has the elements of loaded descriptions shows them as they were described. The
induction is on the descriptions; the depth has to be enough for all of them. -/
theorem snapshots_loadAll (h : Host) (parent : ElementId) {g : Host} :
    ∀ (ds : List Description) {depth : Nat}, Description.countAll ds ≤ depth →
    (∀ id, h.elements.size ≤ id → id < h.elements.size + Description.countAll ds →
      g.get id = (h.loadAll parent ds).2.get id) →
    (h.loadAll parent ds).1.map (g.snapshotWithin depth) = numberedAll parent h.elements.size ds
  | [], _, _, _ => rfl
  | d :: rest, depth, hdepth, hsame => by
    simp only [Description.countAll] at hdepth hsame
    have hcount : d.count ≤ depth := by omega
    have hcount' : Description.countAll rest ≤ depth := by omega
    -- The other trees have left the elements of the first one alone.
    have hfirst := snapshot_load h (some parent) d (g := g) hcount
      fun id hle hlt => by
        rw [hsame id hle (by omega)]
        simp only [loadAll]
        rw [get_loadAll_of_lt _ _ (by rw [size_load]; exact hlt)]
    have hothers := snapshots_loadAll (h.load (some parent) d).2 parent rest (g := g)
      hcount' fun id hle hlt => by
        rw [size_load] at hle hlt
        rw [hsame id (by omega) (by omega)]
        rfl
    rw [size_load] at hothers
    simp only [loadAll, List.map_cons, load_fst]
    rw [hfirst, hothers, numberedAll]

end

/-! ## What loading keeps -/

/-- A tree can be loaded below this element: it is there, or there is none and the store is
empty. -/
structure Lodges (h : Host) (parent : Option ElementId) : Prop where
  there : ∀ p, parent = some p → p < h.elements.size
  first : parent = none → h.elements.size = 0

/-- An element that is there lodges what is loaded below it. -/
theorem Lodges.some {h : Host} {p : ElementId} (hp : p < h.elements.size) : h.Lodges (some p) where
  there _ hq := by
    cases hq
    exact hp
  first hnone := by cases hnone

theorem Lodges.empty (kinds : Kinds) : (empty kinds).Lodges none where
  there _ hp := by cases hp
  first _ := rfl

/-- What the two steps of loading a tree of this sort keep: an element is put into the store, and
an element that is there takes its children. -/
structure KeptByLoading (Q : Description → Prop) (J : Host → Prop) : Prop where
  below {type : String} {name : Option String} {classes : List String} {value : Json}
    {children : List Description} {readOnly : Bool} :
    Q (.mk type name classes value children readOnly) → ∀ d ∈ children, Q d
  push {h : Host} {parent : Option ElementId} {type : String} {name : Option String}
    {classes : List String} {value : Json} {children : List Description} {readOnly : Bool} :
    Q (.mk type name classes value children readOnly) → h.Lodges parent → J h →
    J (h.push (sprout parent type name classes value readOnly)).2
  update {h : Host} (id : ElementId) (children : List ElementId) :
    J h → J (h.update id fun e => { e with children })

namespace KeptByLoading

variable {Q : Description → Prop} {J : Host → Prop}

mutual

/-- **What both steps keep, loading keeps.** The induction is on the tree; what is loaded below an
element is loaded behind it, where the element is there. -/
theorem load (hJ : KeptByLoading Q J) {h : Host} (hh : J h) {parent : Option ElementId}
    (hparent : h.Lodges parent) : ∀ d : Description, Q d → J (h.load parent d).2
  | .mk type name classes value children readOnly, hd => by
    have htop : h.elements.size <
        (h.push (sprout parent type name classes value readOnly)).2.elements.size := by
      rw [size_push]
      exact Nat.lt_succ_self _
    exact hJ.update _ _ (loadAll hJ (hJ.push hd hparent hh) htop children (hJ.below hd))

/-- What is kept by one description is kept by several, loaded in turn below an element. -/
theorem loadAll (hJ : KeptByLoading Q J) {h : Host} (hh : J h) {parent : ElementId}
    (hparent : parent < h.elements.size) :
    ∀ ds : List Description, (∀ d ∈ ds, Q d) → J (h.loadAll parent ds).2
  | [], _ => hh
  | d :: rest, hds => by
    have hlt : parent < (h.load (some parent) d).2.elements.size := by
      rw [size_load]
      exact Nat.lt_add_right _ hparent
    have hload := load hJ hh (.some hparent) d (hds d List.mem_cons_self)
    exact loadAll hJ hload hlt rest fun c hc => hds c (List.mem_cons_of_mem d hc)

end

/-- The host of a described tree has what the empty store has and loading keeps. -/
theorem ofDescription (hJ : KeptByLoading Q J) {kinds : Kinds} (hempty : J (empty kinds))
    {d : Description} (hd : Q d) : J (ofDescription kinds d) :=
  hJ.load hempty (.empty kinds) d hd

end KeptByLoading

theorem Ordered.keptByLoading : KeptByLoading (fun _ => True) Ordered where
  below _ _ _ := trivial
  push _ hparent hh := hh.push hparent.there
  update id _ hh := hh.update id fun _ => rfl

/-- Nothing has been done to the elements yet, none is read-only, and all but the root have
been made under another. -/
structure Pristine (h : Host) : Prop where
  deleted : ∀ id, (h.get id).deleted = false
  readOnly : ∀ id, (h.get id).readOnly = false
  rooted : ∀ id, id < h.elements.size → id ≠ root → (h.get id).parent.isSome = true

namespace Pristine

theorem empty (kinds : Kinds) : (empty kinds).Pristine where
  deleted _ := rfl
  readOnly _ := rfl
  rooted _ hid _ := absurd hid (Nat.not_lt_zero _)

/-- Giving an element other children leaves everything pristine. -/
theorem update {h : Host} (hh : h.Pristine) (id : ElementId) (children : List ElementId) :
    (h.update id fun e => { e with children }).Pristine where
  deleted other :=
    Eq.trans (field_update h id other (f := Element.deleted) fun _ => rfl) (hh.deleted other)
  readOnly other :=
    Eq.trans (field_update h id other (f := Element.readOnly) fun _ => rfl) (hh.readOnly other)
  rooted other hother hroot := by
    rw [size_update] at hother
    have hparent : ((h.update id fun e => { e with children }).get other).parent =
        (h.get other).parent :=
      field_update h id other (f := Element.parent) fun _ => rfl
    rw [hparent]
    exact hh.rooted other hother hroot

/-- So does a new element that is neither deleted nor read-only and has a parent, if it is not the
root. -/
theorem push {h : Host} (hh : h.Pristine) {e : Element} (hdeleted : e.deleted = false)
    (hreadOnly : e.readOnly = false) (hparent : h.elements.size ≠ root → e.parent.isSome = true) :
    (h.push e).2.Pristine where
  deleted other := by
    rw [get_push]
    split
    · exact hdeleted
    · exact hh.deleted other
  readOnly other := by
    rw [get_push]
    split
    · exact hreadOnly
    · exact hh.readOnly other
  rooted other hother hroot := by
    rw [size_push] at hother
    rw [get_push]
    split
    · rename_i he
      exact hparent (he ▸ hroot)
    · rename_i hne
      exact hh.rooted other (Nat.lt_of_le_of_ne (Nat.le_of_lt_succ hother) hne) hroot

theorem keptByLoading : KeptByLoading Description.Writable Pristine where
  below hd d hmem := Description.writableAll_iff.mp hd.2 d hmem
  push hd hparent hh := by
    refine hh.push rfl hd.1 fun hsize => ?_
    -- Only the first element is loaded below none.
    rw [Option.isSome_iff_ne_none]
    exact fun hnone => hsize (hparent.first hnone)
  update id children hh := hh.update id children

end Pristine

/-! ## The host of a described tree -/

section

variable (kinds : Kinds) (d : Description)

theorem size_ofDescription : (ofDescription kinds d).elements.size = d.count := by
  rw [ofDescription, size_load]
  exact Nat.zero_add _

theorem ordered_ofDescription : (ofDescription kinds d).Ordered :=
  Ordered.keptByLoading.ofDescription (.empty kinds) (d := d) trivial

theorem pristine_ofDescription (hd : d.Writable) : (ofDescription kinds d).Pristine :=
  Pristine.keptByLoading.ofDescription (.empty kinds) hd

/-- The tree of a loaded host is the described one, numbered from the root on. -/
theorem snapshot_ofDescription :
    (ofDescription kinds d).snapshot root = numbered none root d := by
  rw [snapshot, size_ofDescription]
  exact snapshot_load (empty kinds) none d (Nat.le_refl _) fun _ _ _ => rfl

/-- **Pre-order.** The numbers of a loaded tree are those from that of its root on, each
element before those below it. -/
theorem ids_snapshot_ofDescription :
    ((ofDescription kinds d).snapshot root).ids = List.range' root d.count := by
  rw [snapshot_ofDescription, ids_numbered]

end

/-- In a tree that has only been loaded, every element but the root is below the root. -/
theorem Pristine.above_root {h : Host} (hh : h.Pristine) (hordered : h.Ordered) :
    ∀ id, id < h.elements.size → id ≠ root → h.Above root id := by
  intro id
  induction id using Nat.strongRecOn with
  | ind id ih =>
    intro hid hroot
    obtain ⟨p, hp⟩ := Option.isSome_iff_exists.mp (hh.rooted id hid hroot)
    have hlt : p < id := hordered id p hp
    -- The parent is the root, or below it by induction.
    by_cases hp0 : p = root
    · exact .parent (hp0 ▸ hp)
    · exact .step hp (ih p hlt (Nat.lt_trans hlt hid) hp0)

end Host

end Graft
