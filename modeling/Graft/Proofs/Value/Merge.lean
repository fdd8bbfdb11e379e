import Graft.Proofs.Table.Order
import Graft.Value.Merge

/-!
Merging, said place by place.

What merging leaves at a place depends on the two values that stand there and on nothing else:
`mergedAt` says how. The places of an object are its keys and those of a list are its
positions. A merged object has at each key what is left there, the keys of the left object in
their order and then the new ones of the right object in theirs. A merged list has what is
left at each position, in turn.

The positions are those of the two lists as they are given. That is no matter of course where
a list is merged in place: it grows at its end while it is gone through, and the positions
that are to be removed are only taken out when that is over. `mergedInPlace` is this loop, and
it gives the same list.
-/

set_option autoImplicit false

namespace Graft.Value

/-- What merging leaves at a place, if anything, from what the left and the right value have
there, if anything. -/
def mergedAt : Option Value → Option Value → Option Value
  | l, none => l
  | none, some r => if r.isDeletion then none else some r.withoutDeletions
  | some l, some r =>
    if r.isDeletion then none
    else some (if l.isContainer && r.isContainer then l.merge r else r.withoutDeletions)

theorem mergedAt_none (l : Option Value) : mergedAt l none = l := by
  cases l <;> rfl

/-- Unless two containers meet, the right value takes the place of the left one. -/
theorem merge_of_not_containers {l r : Value} (hr : r.isDeletion = false)
    (h : (l.isContainer && r.isContainer) = false) : l.merge r = r.withoutDeletions := by
  cases r with
  | deletion => cases hr
  | object _ | list _ =>
    cases l with
    | object _ | list _ => cases h
    | _ => rfl
  | _ => cases l <;> rfl

/-- A marker leaves nothing at its place. -/
theorem mergedAt_marker (l : Option Value) {r : Value} (hr : r.isDeletion = true) :
    mergedAt l (some r) = none := by
  cases l <;> rw [mergedAt, if_pos hr]

/-- What merging leaves at a place is what is merged into the value there, if there is any, and
into nothing otherwise. -/
theorem mergedAt_some (l : Option Value) {r : Value} (hr : r.isDeletion = false) :
    mergedAt l (some r) = some ((l.getD null).merge r) := by
  cases l with
  | none =>
    have hnothing : null.merge r = r.withoutDeletions := merge_of_not_containers hr rfl
    rw [mergedAt, if_neg (Bool.eq_false_iff.mp hr), Option.getD_none, hnothing]
  | some v =>
    rw [mergedAt, if_neg (Bool.eq_false_iff.mp hr), Option.getD_some]
    cases hcontainers : v.isContainer && r.isContainer with
    | true => rfl
    | false =>
      rw [merge_of_not_containers hr hcontainers]
      rfl

/-! ## Objects -/

/-- What one entry on the right does to the left table. -/
def mergeEntry (l : Table Value) (k : String) (r : Value) : Table Value :=
  if r.isDeletion then Table.erase l k
  else Table.insert l k <|
    match Table.get? l k with
    | some v => if v.isContainer && r.isContainer then merge v r else withoutDeletions r
    | none => withoutDeletions r

theorem mergeEntries_nil (l : Table Value) : mergeEntries l [] = l := by
  rw [mergeEntries]

theorem mergeEntries_cons (l : Table Value) (k : String) (r : Value) (rest : Table Value) :
    mergeEntries l ((k, r) :: rest) = mergeEntries (mergeEntry l k r) rest := by
  rw [mergeEntries]
  rfl

theorem distinct_mergeEntry {l : Table Value} (hl : l.Distinct) (k : String) (r : Value) :
    (mergeEntry l k r).Distinct := by
  unfold mergeEntry
  split
  · exact hl.erase k
  · exact hl.insert k _

theorem get?_mergeEntry {l : Table Value} (hl : l.Distinct) (k : String) (r : Value)
    (other : String) :
    Table.get? (mergeEntry l k r) other =
      if k = other then mergedAt (Table.get? l k) (some r) else Table.get? l other := by
  unfold mergeEntry
  by_cases hr : r.isDeletion
  · rw [if_pos hr, hl.get?_erase]
    cases Table.get? l k <;> simp [mergedAt, hr]
  · rw [if_neg hr, Table.get?_insert]
    cases Table.get? l k <;> simp [mergedAt, hr]

/-- A name stays on the left if no marker on the right takes it away. -/
def keepsName (r : Table Value) (name : String) : Bool :=
  !(Table.get? r name).any isDeletion

theorem keepsName_cons (k : String) (v : Value) (r : Table Value) (name : String) :
    keepsName ((k, v) :: r) name = if k = name then !v.isDeletion else keepsName r name := by
  rw [keepsName, keepsName, Table.get?_cons]
  by_cases hk : k = name
  · rw [if_pos hk, if_pos hk, Option.any_some]
  · rw [if_neg hk, if_neg hk]

/-- A marker takes its key away, and a value is put behind the others if its key is new. -/
theorem names_mergeEntry {l : Table Value} (hl : l.Distinct) (k : String) (r : Value) :
    Table.names (mergeEntry l k r) =
      (Table.names l).filter (fun name => name != k || !r.isDeletion) ++
        if Table.has l k || r.isDeletion then [] else [k] := by
  unfold mergeEntry
  by_cases hr : r.isDeletion
  · rw [if_pos hr, Table.names_erase, List.Nodup.erase_eq_filter hl]
    simp [hr]
  · rw [if_neg hr, Table.names_insert]
    by_cases hk : Table.has l k <;> simp [hk, hr]

section

variable {l r : Table Value}

theorem distinct_mergeEntries (hl : l.Distinct) : Table.Distinct (mergeEntries l r) := by
  induction r generalizing l with
  | nil =>
    rw [mergeEntries_nil]
    exact hl
  | cons e rest ih =>
    obtain ⟨k, v⟩ := e
    rw [mergeEntries_cons]
    exact ih (distinct_mergeEntry hl k v)

/-- **Key by key.** A merged object has at each key what merging leaves there. -/
theorem get?_mergeEntries (hl : l.Distinct) (hr : r.Distinct) (name : String) :
    Table.get? (mergeEntries l r) name = mergedAt (Table.get? l name) (Table.get? r name) := by
  induction r generalizing l with
  | nil =>
    rw [mergeEntries_nil]
    cases Table.get? l name <;> rfl
  | cons e rest ih =>
    obtain ⟨k, v⟩ := e
    rw [mergeEntries_cons, ih (distinct_mergeEntry hl k v) hr.tail, get?_mergeEntry hl,
      Table.get?_cons]
    by_cases hk : k = name
    · -- The entries behind this one have other keys.
      subst hk
      rw [if_pos rfl, if_pos rfl, hr.get?_tail]
      generalize mergedAt (Table.get? l k) (some v) = left
      cases left <;> rfl
    · rw [if_neg hk, if_neg hk]

/-- **The order of keys.** The keys on the left that stay come first, then the new ones on the
right that bring a value. -/
theorem names_mergeEntries (hl : l.Distinct) (hr : r.Distinct) :
    Table.names (mergeEntries l r) =
      (Table.names l).filter (keepsName r) ++
        (Table.names r).filter fun name => !Table.has l name && keepsName r name := by
  induction r generalizing l with
  | nil =>
    have hall : (Table.names l).filter (keepsName []) = Table.names l :=
      List.filter_eq_self.mpr fun _ _ => rfl
    rw [mergeEntries_nil, hall]
    exact (List.append_nil _).symm
  | cons e rest ih =>
    obtain ⟨k, v⟩ := e
    have hk : k ∉ Table.names rest := (List.nodup_cons.mp hr).1
    have hkeeps : keepsName rest k = true := by
      rw [keepsName, hr.get?_tail]
      rfl
    rw [mergeEntries_cons, ih (distinct_mergeEntry hl k v) hr.tail, names_mergeEntry hl,
      List.filter_append, List.filter_filter]
    -- On the left: what stays behind this entry and behind the others.
    have hleft : (Table.names l).filter
          (fun name => keepsName rest name && (name != k || !v.isDeletion)) =
        (Table.names l).filter (keepsName ((k, v) :: rest)) := by
      refine List.filter_congr fun name _ => ?_
      rw [keepsName_cons]
      by_cases hn : k = name
      · simp [← hn, hkeeps]
      · simp [hn, Ne.symm hn]
    -- On the right: the other entries do not see what this one has done, their keys being others.
    have hright : (Table.names rest).filter (fun name =>
          !Table.has (mergeEntry l k v) name && keepsName rest name) =
        (Table.names rest).filter fun name =>
          !Table.has l name && keepsName ((k, v) :: rest) name := by
      refine List.filter_congr fun name hname => ?_
      have hn : k ≠ name := fun h => hk (h ▸ hname)
      rw [Table.has, get?_mergeEntry hl, if_neg hn, keepsName_cons, if_neg hn]
      rfl
    rw [hleft, hright, List.append_assoc]
    congr 1
    -- The key of this entry is a new one, or it is not.
    have hnames : Table.names ((k, v) :: rest) = k :: Table.names rest := rfl
    rw [hnames, List.filter_cons, keepsName_cons, if_pos rfl]
    by_cases hhas : Table.has l k
    · simp [hhas]
    · by_cases hv : v.isDeletion
      · simp [hhas, hv]
      · simp [hhas, hv, hkeeps]

end

/-! ## Lists -/

theorem mergeItems_nil_right (ls : List Value) : mergeItems ls [] = ls := by
  cases ls <;> rw [mergeItems]

theorem mergeItems_cons_cons (l r : Value) (ls rs : List Value) :
    mergeItems (l :: ls) (r :: rs) = (mergedAt (some l) (some r)).toList ++ mergeItems ls rs := by
  rw [mergeItems]
  by_cases hr : r.isDeletion
  · simp [mergedAt, hr]
  · simp [mergedAt, hr]

/-- What is appended: the items that are no markers, without the markers inside them. -/
theorem mergeItems_nil_left (rs : List Value) :
    mergeItems [] rs = (rs.filter fun r => !r.isDeletion).map withoutDeletions := by
  induction rs with
  | nil => rw [mergeItems_nil_right, List.filter_nil, List.map_nil]
  | cons r rest ih =>
    rw [mergeItems, ih]
    by_cases hr : r.isDeletion
    · simp [hr]
    · simp [hr]

/-- **Position by position.** A merged list has what merging leaves at the positions of the left
list, and then what the right list brings behind its end. -/
theorem mergeItems_eq (ls rs : List Value) :
    mergeItems ls rs =
      ((List.range ls.length).filterMap fun i => mergedAt ls[i]? rs[i]?) ++
        ((rs.drop ls.length).filter fun r => !r.isDeletion).map withoutDeletions := by
  induction ls generalizing rs with
  | nil => rw [mergeItems_nil_left]; rfl
  | cons l ls ih =>
    rw [List.length_cons, List.range_succ_eq_map, List.filterMap_cons, List.filterMap_map]
    cases rs with
    | nil =>
      -- Nothing is merged in, so every position keeps its item.
      have hrest := ih []
      rw [mergeItems_nil_right] at hrest ⊢
      conv_lhs => rw [hrest]
      simp [mergedAt]
    | cons r rs =>
      rw [mergeItems_cons_cons, ih, List.drop_succ_cons]
      have hhead : (l :: ls)[0]? = some l ∧ (r :: rs)[0]? = some r := ⟨rfl, rfl⟩
      rw [hhead.1, hhead.2]
      cases mergedAt (some l) (some r) <;> simp

/-! ## Lists in place -/

/-- What one item of the right list does to the left list in place, and to the positions that
are to be removed in the end, of which the last is the first. -/
def mergeItem (state : List Value × List Nat) (item : Value × Nat) : List Value × List Nat :=
  let (left, removed) := state
  let (r, i) := item
  match left[i]? with
  | none => if r.isDeletion then (left, removed) else (left ++ [r.withoutDeletions], removed)
  | some l =>
    if r.isDeletion then (left, i :: removed)
    else
      (left.set i (if l.isContainer && r.isContainer then l.merge r else r.withoutDeletions),
        removed)

/-- Takes positions out of a list, one after the other. -/
def removeAll (state : List Value × List Nat) : List Value :=
  state.2.foldl List.eraseIdx state.1

/-- Merges one list into another in place: the right list is gone through while the left one
grows, and in the end the positions that hold a marker on the right are removed, the last one
first. -/
def mergedInPlace (ls rs : List Value) : List Value :=
  removeAll (rs.zipIdx.foldl mergeItem (ls, []))

/-- Positions that are removed from the end on leave alone what is behind all of them. -/
theorem removeAll_append {removed : List Nat} {items : List Value} (rest : List Value)
    (hsorted : removed.Pairwise (· > ·)) (hlt : ∀ i ∈ removed, i < items.length) :
    removeAll (items ++ rest, removed) = removeAll (items, removed) ++ rest := by
  induction removed generalizing items with
  | nil => rfl
  | cons i others ih =>
    obtain ⟨hfirst, hothers⟩ := List.pairwise_cons.mp hsorted
    have hi : i < items.length := hlt i List.mem_cons_self
    simp only [removeAll, List.foldl_cons] at ih ⊢
    rw [List.eraseIdx_append_of_lt_length hi]
    refine ih hothers fun j hj => ?_
    -- What is still to be removed is before the position that has just been taken out.
    have hj : j < i := hfirst j hj
    rw [List.length_eraseIdx_of_lt hi]
    omega

/-- The loop from the middle on. What is `done` will not be looked at again; `ls` is what is
still ahead, and once nothing is, the right list may be ahead of the left one. -/
theorem foldl_mergeItem (rs : List Value) :
    ∀ (ls done : List Value) (removed : List Nat) (i : Nat),
    (i = done.length ∨ ls = [] ∧ done.length ≤ i) → removed.Pairwise (· > ·) →
    (∀ j ∈ removed, j < done.length) →
    removeAll ((rs.zipIdx i).foldl mergeItem (done ++ ls, removed)) =
      removeAll (done, removed) ++ mergeItems ls rs := by
  induction rs with
  | nil =>
    intro ls done removed i _ hsorted hlt
    rw [mergeItems_nil_right]
    exact removeAll_append ls hsorted hlt
  | cons r rest ih =>
    intro ls done removed i hi hsorted hlt
    rw [List.zipIdx_cons, List.foldl_cons]
    cases ls with
    | nil =>
      -- The left list has come to its end: what is no marker is appended.
      have hle : done.length ≤ i := by omega
      have hnone : (done ++ [])[i]? = none := by
        rw [List.append_nil]
        exact List.getElem?_eq_none hle
      rw [mergeItem, hnone, mergeItems]
      by_cases hr : r.isDeletion
      · simp only [hr, if_true]
        exact ih [] done removed (i + 1) (.inr ⟨rfl, by omega⟩) hsorted hlt
      · simp only [hr, Bool.false_eq_true, if_false]
        have hlength : (done ++ [r.withoutDeletions]).length = done.length + 1 :=
          List.length_append
        have hnext := ih [] (done ++ [r.withoutDeletions]) removed (i + 1)
          (.inr ⟨rfl, by omega⟩) hsorted fun j hj => by have := hlt j hj; omega
        rw [List.append_nil] at hnext ⊢
        rw [hnext, removeAll_append _ hsorted hlt, List.append_assoc]
        rfl
    | cons l ls =>
      obtain rfl : i = done.length := by
        rcases hi with hi | ⟨hls, _⟩
        · exact hi
        · cases hls
      have hsome : (done ++ l :: ls)[done.length]? = some l := by simp
      rw [mergeItem, hsome, mergeItems_cons_cons]
      by_cases hr : r.isDeletion
      · -- The position stays for now, and is the first to be removed in the end.
        have hnext := ih ls (done ++ [l]) (done.length :: removed) (done.length + 1)
          (.inl (by simp)) (List.pairwise_cons.mpr ⟨hlt, hsorted⟩) fun j hj => by
            rw [List.length_append, List.length_singleton]
            rcases List.mem_cons.mp hj with rfl | hj
            · omega
            · have := hlt j hj
              omega
        have herase : removeAll (done ++ [l], done.length :: removed) =
            removeAll (done, removed) := by
          simp [removeAll, List.eraseIdx_append_of_length_le]
        rw [List.append_assoc, List.singleton_append, herase] at hnext
        simp only [mergedAt, hr, if_true, Option.toList_none, List.nil_append]
        exact hnext
      · -- The position is written, and done with.
        simp only [mergedAt, hr, Bool.false_eq_true, if_false, Option.toList_some]
        generalize (if l.isContainer && r.isContainer then l.merge r else r.withoutDeletions) = v
        have hset : (done ++ l :: ls).set done.length v = (done ++ [v]) ++ ls := by simp
        have hlength : (done ++ [v]).length = done.length + 1 := List.length_append
        rw [hset, ih ls (done ++ [v]) removed (done.length + 1) (.inl hlength.symm) hsorted
          fun j hj => by have := hlt j hj; omega]
        rw [removeAll_append _ hsorted hlt, List.append_assoc]

/-- **In place.** Merging lists in place gives the merged list, although the left list grows
meanwhile and removals wait. -/
theorem mergedInPlace_eq (ls rs : List Value) : mergedInPlace ls rs = mergeItems ls rs :=
  foldl_mergeItem rs ls [] [] 0 (.inl rfl) .nil fun _ hj => by cases hj

/-! ## Values -/

/-- **Merging, place by place.** Two objects without repeated keys merge into one that has at
each key what merging leaves there: the keys on the left that no marker takes away come first,
in their order, and then the keys that only the right object has, in theirs. Two lists merge,
in place or not, into what merging leaves at the positions of the left list, followed by the
items that the right list has behind its end. A bare marker leaves the left value as it is,
and in every other case the right value takes its place, without the markers inside it. -/
theorem merge_pointwise :
    (∀ l r : Table Value, l.Distinct → r.Distinct →
      ∃ t : Table Value, merge (object l) (object r) = object t ∧ t.Distinct ∧
        (∀ name, Table.get? t name = mergedAt (Table.get? l name) (Table.get? r name)) ∧
        Table.names t = (Table.names l).filter (keepsName r) ++
          (Table.names r).filter fun name => !Table.has l name && keepsName r name) ∧
    (∀ l r : List Value, merge (list l) (list r) = list (mergedInPlace l r) ∧
      mergedInPlace l r =
        ((List.range l.length).filterMap fun i => mergedAt l[i]? r[i]?) ++
          ((r.drop l.length).filter fun v => !v.isDeletion).map withoutDeletions) ∧
    (∀ l : Value, merge l deletion = l) ∧
    (∀ l r : Value, r.isDeletion = false → (∀ a b, ¬ (l = object a ∧ r = object b)) →
      (∀ a b, ¬ (l = list a ∧ r = list b)) → merge l r = r.withoutDeletions) := by
  refine ⟨fun l r hl hr => ?_, fun l r => ?_, fun l => ?_, fun l r hr hobjects hlists => ?_⟩
  · refine ⟨mergeEntries l r, ?_, distinct_mergeEntries hl, get?_mergeEntries hl hr,
      names_mergeEntries hl hr⟩
    rw [merge]
  · rw [mergedInPlace_eq, merge]
    exact ⟨rfl, mergeItems_eq l r⟩
  · cases l <;> rw [merge]
  · cases l with
    | object a =>
      cases r with
      | object b => exact absurd ⟨rfl, rfl⟩ (hobjects a b)
      | deletion => cases hr
      | _ => rw [merge] <;> simp
    | list a =>
      cases r with
      | list b => exact absurd ⟨rfl, rfl⟩ (hlists a b)
      | deletion => cases hr
      | _ => rw [merge] <;> simp
    | _ =>
      cases r with
      | deletion => cases hr
      | _ => rw [merge] <;> simp

/-- An object that loses a key, keeps one, has two lists merged and gets a new key; and a list
that loses its first item and gets one behind its end. -/
theorem merge_pointwise_mixed :
    let l : Table Value := [("a", int 1), ("b", list [int 1, int 2, int 3]), ("c", int 4)]
    let r : Table Value :=
      [("d", list [deletion, int 7]), ("b", list [deletion, int 5]), ("a", deletion)]
    let merged : Table Value := [("b", list [int 5, int 3]), ("c", int 4), ("d", list [int 7])]
    l.Distinct ∧ r.Distinct ∧
    (∃ t : Table Value, merge (object l) (object r) = object t ∧ t.Distinct ∧
      (∀ name, Table.get? t name = mergedAt (Table.get? l name) (Table.get? r name)) ∧
      Table.names t = (Table.names l).filter (keepsName r) ++
        (Table.names r).filter fun name => !Table.has l name && keepsName r name) ∧
    merge (object l) (object r) = object merged ∧
    (int 1).isDeletion = false ∧ merge null (int 1) = int 1 := by
  intro l r merged
  have hl : l.Distinct := by unfold Table.Distinct; decide
  have hr : r.Distinct := by unfold Table.Distinct; decide
  refine ⟨hl, hr, merge_pointwise.1 l r hl hr, rfl, rfl, ?_⟩
  exact merge_pointwise.2.2.2 null (int 1) rfl (fun _ _ h => by cases h.1) fun _ _ h => by cases h.1

end Graft.Value
