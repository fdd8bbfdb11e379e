import Graft.Proofs.Value.Independent

/-!
Merging the same value again.

A value that is merged again meets what it has left behind itself: entries that it has replaced,
objects and lists that it has been merged into, and containers of its own without the markers
inside them. The latter are what merging it into nothing gives, so all of these are values that it
has just been merged into, and merging changes nothing any more.

A removal marker among the entries of an object finds nothing to remove at the second time. A
marker among the items of a list does: it names a position, and another item has moved there. So
the values that may be merged again without a difference are those in which no list has a marker
as an item.
-/

set_option autoImplicit false

namespace Graft.Value

/-! ## Markers among items -/

mutual

/-- No list in a value has a removal marker as an item, at any depth, so that merging it moves no
item. Markers among the entries of objects are left to it. -/
def ShiftFree : Value → Prop
  | list items => ShiftFreeItems items
  | object entries => ShiftFreeEntries entries
  | _ => True

/-- No item is a marker, and the same of all items. -/
def ShiftFreeItems : List Value → Prop
  | [] => True
  | v :: rest => v.isDeletion = false ∧ v.ShiftFree ∧ ShiftFreeItems rest

/-- The same of all that is entered. -/
def ShiftFreeEntries : List (String × Value) → Prop
  | [] => True
  | (_, v) :: rest => v.ShiftFree ∧ ShiftFreeEntries rest

end

/-! ## Items -/

/-- An item that is no marker is merged into the first item, if there is any, and those behind it
into the others. -/
theorem mergeItems_cons (ls : List Value) {r : Value} (hr : r.isDeletion = false)
    (rest : List Value) :
    mergeItems ls (r :: rest) = (ls.head?.getD null).merge r :: mergeItems ls.tail rest := by
  cases ls with
  | nil =>
    have hnothing : null.merge r = r.withoutDeletions := merge_of_not_containers hr rfl
    rw [mergeItems, if_neg (Bool.eq_false_iff.mp hr), List.head?_nil, Option.getD_none, hnothing]
    rfl
  | cons l ls =>
    rw [mergeItems_cons_cons, mergedAt_some _ hr]
    rfl

/-- The items of a list; anything else counts as a list without items. -/
def itemsOrNone : Value → List Value
  | list items => items
  | _ => []

theorem Distinct.itemsOrNone {v : Value} (h : v.Distinct) : DistinctItems v.itemsOrNone := by
  cases v with
  | list items => exact h
  | _ => exact trivial

/-- What a list leaves of itself is what it is merged into an empty one. -/
theorem itemsWithoutDeletions_eq (items : List Value) :
    itemsWithoutDeletions items = mergeItems [] items := by
  induction items with
  | nil => rw [mergeItems_nil_right, itemsWithoutDeletions]
  | cons v rest ih => rw [mergeItems, itemsWithoutDeletions, ih]

/-- A list is merged into anything else as into a list without items. -/
theorem merge_list (a : Value) (items : List Value) :
    a.merge (list items) = list (mergeItems a.itemsOrNone items) := by
  cases a with
  | list ls => rw [merge]; rfl
  | _ => rw [merge, itemsOrNone, ← itemsWithoutDeletions_eq, withoutDeletions] <;> simp

/-! ## Once and again -/

/-- Merging a value again changes nothing, whatever it has been merged into. -/
def Settles (b : Value) : Prop :=
  ∀ a : Value, a.Distinct → (a.merge b).merge b = a.merge b

/-- What merging a value leaves at a place is left there by merging it again. -/
theorem Settles.mergedAt {v : Value} (hv : v.Settles) {l : Option Value}
    (hl : (l.getD null).Distinct) :
    mergedAt (mergedAt l (some v)) (some v) = mergedAt l (some v) := by
  cases hdeletion : v.isDeletion with
  | true => rw [mergedAt_marker _ hdeletion, mergedAt_marker _ hdeletion]
  | false => rw [mergedAt_some _ hdeletion, mergedAt_some _ hdeletion, Option.getD_some, hv _ hl]

section

variable {l r : Table Value}

/-- A name that a merged object has is not taken away by what has been merged. -/
theorem keepsName_of_mem (hl : l.Distinct) (hr : r.Distinct) {name : String}
    (h : name ∈ Table.names (mergeEntries l r)) : keepsName r name = true := by
  rw [Table.mem_names_iff, Table.has, get?_mergeEntries hl hr] at h
  rw [keepsName]
  cases hv : Table.get? r name with
  | none => rfl
  | some v =>
    rw [hv] at h
    cases hdeletion : v.isDeletion with
    | false => rw [Option.any_some, hdeletion]; rfl
    | true =>
      rw [mergedAt_marker _ hdeletion] at h
      cases h

/-- A name with which something has been merged that is no marker is there. -/
theorem has_mergeEntries (hl : l.Distinct) (hr : r.Distinct) {name : String}
    (hname : name ∈ Table.names r) (h : keepsName r name = true) :
    Table.has (mergeEntries l r) name = true := by
  rw [Table.mem_names_iff, Table.has, Option.isSome_iff_exists] at hname
  obtain ⟨v, hv⟩ := hname
  rw [keepsName, hv, Option.any_some, Bool.not_eq_true'] at h
  rw [Table.has, get?_mergeEntries hl hr, hv, mergedAt_some _ h]
  rfl

/-- **Objects.** Merging entries again changes nothing, the order of the keys included, if this is
so for what is under each key. -/
theorem mergeEntries_settles (hl : l.Distinct) (hls : DistinctEntries l) (hr : r.Distinct)
    (h : ∀ k v, Table.get? r k = some v → v.Settles) :
    mergeEntries (mergeEntries l r) r = mergeEntries l r := by
  have hmerged : Table.Distinct (mergeEntries l r) := distinct_mergeEntries hl
  refine Table.Distinct.ext (distinct_mergeEntries hmerged) ?_ fun name => ?_
  · -- Of the keys that are there none is removed, and no other key is new.
    have hkept : (Table.names (mergeEntries l r)).filter (keepsName r) =
        Table.names (mergeEntries l r) :=
      List.filter_eq_self.mpr fun _ hname => keepsName_of_mem hl hr hname
    have hnew : ((Table.names r).filter fun name =>
        !Table.has (mergeEntries l r) name && keepsName r name) = [] := by
      refine List.filter_eq_nil_iff.mpr fun name hname hboth => ?_
      rw [Bool.and_eq_true, Bool.not_eq_true'] at hboth
      rw [has_mergeEntries hl hr hname hboth.2] at hboth
      cases hboth.1
    rw [names_mergeEntries hmerged hr, hkept, hnew, List.append_nil]
  · rw [get?_mergeEntries hmerged hr, get?_mergeEntries hl hr]
    cases hv : Table.get? r name with
    | none => rw [mergedAt_none, mergedAt_none]
    | some v =>
      refine (h name v hv).mergedAt ?_
      cases hu : Table.get? l name with
      | none => exact trivial
      | some u => exact hls.get? hu

end

/-- **Lists.** Merging items again changes nothing if none is a marker and this is so for each of
them. -/
theorem mergeItems_settles {rs : List Value}
    (h : ∀ r ∈ rs, r.isDeletion = false ∧ r.Settles) :
    ∀ {ls : List Value}, DistinctItems ls →
      mergeItems (mergeItems ls rs) rs = mergeItems ls rs := by
  induction rs with
  | nil =>
    intro ls _
    rw [mergeItems_nil_right, mergeItems_nil_right]
  | cons r rest ih =>
    intro ls hls
    obtain ⟨hdeletion, hr⟩ := h r List.mem_cons_self
    have hfirst : (ls.head?.getD null).Distinct ∧ DistinctItems ls.tail := by
      cases ls with
      | nil => exact ⟨trivial, trivial⟩
      | cons l ls => exact hls
    -- The first item meets what it has been merged into, and so do those behind it.
    rw [mergeItems_cons _ hdeletion, mergeItems_cons _ hdeletion, List.head?_cons,
      Option.getD_some, List.tail_cons, hr _ hfirst.1,
      ih (fun r' hr' => h r' (List.mem_cons_of_mem r hr')) hfirst.2]

mutual

theorem settles : ∀ {b : Value}, b.Distinct → b.ShiftFree → b.Settles
  | object bs, ⟨hb, hbs⟩, h => fun a ha => by
    obtain ⟨hl, hls⟩ := ha.entriesOrNone
    rw [merge_object a hb, merge_object _ hb, entriesOrNone,
      mergeEntries_settles hl hls hb fun k v hv => settles_of_get? hbs h hv]
  | list items, hd, h => fun a ha => by
    rw [merge_list a, merge_list, itemsOrNone,
      mergeItems_settles (fun r hr => settles_of_mem hd h hr) ha.itemsOrNone]
  -- A marker leaves everything as it is, and a value without parts takes the place of anything.
  | deletion, _, _ => fun a _ => by
    cases a <;> rfl
  | null, _, _ | bool _, _, _ | int _, _, _ | float _, _, _ | string _, _, _ => fun a _ => by
    cases a <;> rfl

theorem settles_of_mem : ∀ {items : List Value}, DistinctItems items → ShiftFreeItems items →
    ∀ {r : Value}, r ∈ items → r.isDeletion = false ∧ r.Settles
  | v :: rest, ⟨hv, hrest⟩, ⟨hdeletion, hshift, hshifts⟩, r, hr => by
    have hfirst := settles hv hshift
    rcases List.mem_cons.mp hr with rfl | hr
    · exact ⟨hdeletion, hfirst⟩
    · exact settles_of_mem hrest hshifts hr

theorem settles_of_get? : ∀ {entries : List (String × Value)}, DistinctEntries entries →
    ShiftFreeEntries entries → ∀ {k : String} {v : Value}, Table.get? entries k = some v →
    v.Settles
  | (k', v') :: rest, ⟨hd, hds⟩, ⟨hshift, hshifts⟩, k, v, hv => by
    have hfirst := settles hd hshift
    rw [Table.get?_cons] at hv
    split at hv
    · cases hv
      exact hfirst
    · exact settles_of_get? hds hshifts hv

end

/-! ## What has to be excluded -/

/-- Each marker among the items that are merged costs a list of sufficient length one item. -/
theorem length_mergeItems {ls rs : List Value} (h : rs.length ≤ ls.length) :
    (mergeItems ls rs).length + rs.countP isDeletion = ls.length := by
  induction rs generalizing ls with
  | nil => rw [mergeItems_nil_right, List.countP_nil, Nat.add_zero]
  | cons r rest ih =>
    match ls, h with
    | l :: ls, h =>
      have hrest := ih (Nat.le_of_succ_le_succ h)
      rw [mergeItems_cons_cons, List.length_append, List.countP_cons]
      cases hdeletion : r.isDeletion with
      | true =>
        rw [mergedAt_marker _ hdeletion, if_pos rfl, Option.toList_none, List.length_nil,
          List.length_cons]
        omega
      | false =>
        rw [mergedAt_some _ hdeletion, if_neg Bool.false_ne_true, Option.toList_some,
          List.length_singleton, List.length_cons]
        omega

theorem distinctItems_replicate_null (n : Nat) : DistinctItems (List.replicate n null) := by
  induction n with
  | zero => exact trivial
  | succ n ih => exact ⟨trivial, ih⟩

/-- If merging a list again changes nothing, none of its items is a marker: a list that is twice as
long would lose items at both times. -/
theorem isDeletion_of_settles {items : List Value} (h : (list items).Settles) :
    ∀ r ∈ items, r.isDeletion = false := by
  let nulls := List.replicate (2 * items.length) null
  have hagain := h (list nulls) (distinctItems_replicate_null _)
  rw [merge_list, merge_list, list.injEq, itemsOrNone, itemsOrNone] at hagain
  have hlength : nulls.length = 2 * items.length := List.length_replicate
  have hcount : items.countP isDeletion ≤ items.length := List.countP_le_length
  have honce : (mergeItems nulls items).length + items.countP isDeletion = nulls.length :=
    length_mergeItems (by omega)
  have htwice : (mergeItems (mergeItems nulls items) items).length + items.countP isDeletion =
      (mergeItems nulls items).length := length_mergeItems (by omega)
  rw [hagain] at htwice
  have hzero : items.countP isDeletion = 0 := by omega
  intro r hr
  exact Bool.eq_false_iff.mpr (List.countP_eq_zero.mp hzero r hr)

/-- The same again of the first item, and of the list of the others. -/
theorem settles_cons {r : Value} {rest : List Value} (h : (list (r :: rest)).Settles) :
    r.isDeletion = false ∧ r.Settles ∧ (list rest).Settles := by
  have hdeletion := isDeletion_of_settles h r List.mem_cons_self
  -- What there is at the first place and what is behind it can be chosen freely.
  have hagain : ∀ (l : Value) (ls : List Value), l.Distinct → DistinctItems ls →
      (l.merge r).merge r = l.merge r ∧
        mergeItems (mergeItems ls rest) rest = mergeItems ls rest := by
    intro l ls hl hls
    have hlist := h (list (l :: ls)) ⟨hl, hls⟩
    rw [merge_list, merge_list, list.injEq, itemsOrNone, itemsOrNone,
      mergeItems_cons _ hdeletion, mergeItems_cons _ hdeletion] at hlist
    exact List.cons.inj hlist
  refine ⟨hdeletion, fun l hl => (hagain l [] hl trivial).1, fun a ha => ?_⟩
  rw [merge_list, merge_list, itemsOrNone, (hagain null a.itemsOrNone trivial ha.itemsOrNone).2]

/-- The same again of what is under a key. -/
theorem settles_entry {entries : Table Value} (hd : entries.Distinct)
    (h : (object entries).Settles) {k : String} {v : Value}
    (hv : Table.get? entries k = some v) : v.Settles := by
  cases hdeletion : v.isDeletion with
  | true =>
    cases v with
    | deletion => exact settles trivial trivial
    | _ => cases hdeletion
  | false =>
    intro a ha
    have hsingle : Table.Distinct [(k, a)] := List.nodup_singleton k
    have hagain := h (object [(k, a)]) ⟨hsingle, ha, trivial⟩
    rw [merge, merge, object.injEq] at hagain
    have hk := congrArg (Table.get? · k) hagain
    rw [get?_mergeEntries (distinct_mergeEntries hsingle) hd, get?_mergeEntries hsingle hd, hv,
      mergedAt_some _ hdeletion, mergedAt_some _ hdeletion, Table.get?_cons, if_pos rfl,
      Option.getD_some, Option.getD_some, Option.some_inj] at hk
    exact hk

mutual

theorem shiftFree_of_settles : ∀ {b : Value}, b.Distinct → b.Settles → b.ShiftFree
  | object _, ⟨hd, hds⟩, h =>
    shiftFreeEntries_of_settles hds fun _ _ hmem => settles_entry hd h (hd.get?_of_mem hmem)
  | list _, hd, h => shiftFreeItems_of_settles hd h
  | null, _, _ | deletion, _, _ | bool _, _, _ | int _, _, _ | float _, _, _ | string _, _, _ =>
    trivial

theorem shiftFreeItems_of_settles : ∀ {items : List Value}, DistinctItems items →
    (list items).Settles → ShiftFreeItems items
  | [], _, _ => trivial
  | _ :: _, ⟨hv, hrest⟩, h =>
    ⟨(settles_cons h).1, shiftFree_of_settles hv (settles_cons h).2.1,
      shiftFreeItems_of_settles hrest (settles_cons h).2.2⟩

theorem shiftFreeEntries_of_settles : ∀ {entries : List (String × Value)},
    DistinctEntries entries → (∀ k v, (k, v) ∈ entries → v.Settles) → ShiftFreeEntries entries
  | [], _, _ => trivial
  | (k, v) :: _, ⟨hd, hds⟩, h =>
    ⟨shiftFree_of_settles hd (h k v List.mem_cons_self),
      shiftFreeEntries_of_settles hds fun k' v' hmem => h k' v' (List.mem_cons_of_mem _ hmem)⟩

end

/-- **When merging can be repeated.** Merging a value again changes nothing, whatever it has been
merged into, exactly if no list in it has a removal marker as an item. -/
theorem settles_iff {b : Value} (hb : b.Distinct) : b.Settles ↔ b.ShiftFree :=
  ⟨shiftFree_of_settles hb, settles hb⟩

example : ((list [int 1, int 2]).merge (list [deletion])).merge (list [deletion]) = list [] := rfl

/-- **Merging again changes nothing.** If no list in a value has a removal marker as an item, then
merging it a second time gives the same value as merging it once, with the same order of
entries. -/
theorem merge_merge {a b : Value} (ha : a.Distinct) (hb : b.Distinct) (h : b.ShiftFree) :
    (a.merge b).merge b = a.merge b :=
  settles hb h a ha

/-- An object that loses an entry, has a list put in the place of a number, which is stored without
the marker inside it, and has another list grow. -/
theorem merge_merge_ship :
    let a := object [("old", int 1), ("tiers", int 2), ("parts", list [int 3])]
    let b := object [("tiers", list [object [("top", deletion), ("low", int 4)]]),
      ("old", deletion), ("parts", list [null, int 5])]
    let merged := object [("tiers", list [object [("low", int 4)]]),
      ("parts", list [null, int 5])]
    a.Distinct ∧ b.Distinct ∧ b.ShiftFree ∧ a.merge b = merged ∧ merged.merge b = merged := by
  intro a b merged
  have hnames : ∀ t : Table Value, (Table.names t).Nodup → t.Distinct := fun _ h => h
  have ha : a.Distinct := ⟨hnames _ (by decide), trivial, trivial, ⟨trivial, trivial⟩, trivial⟩
  have hb : b.Distinct :=
    ⟨hnames _ (by decide), ⟨⟨hnames _ (by decide), trivial, trivial, trivial⟩, trivial⟩, trivial,
      ⟨trivial, trivial, trivial⟩, trivial⟩
  have hshift : b.ShiftFree :=
    ⟨⟨rfl, ⟨trivial, trivial, trivial⟩, trivial⟩, trivial,
      ⟨rfl, trivial, rfl, trivial, trivial⟩, trivial⟩
  have hmerged : a.merge b = merged := rfl
  refine ⟨ha, hb, hshift, hmerged, ?_⟩
  rw [← hmerged]
  exact merge_merge ha hb hshift

end Graft.Value
