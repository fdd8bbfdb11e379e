import Graft.Proofs.Value.Slot
import Graft.Value.Json
import Graft.Value.Merge

/-!
Values without removal markers.

A removal marker says what is to be done with a place; it is not something to be kept
there. The operations that write values, which are merging and writing at a path, give a
value without markers if the value that was there before had none, whatever is written.
-/

set_option autoImplicit false

namespace Graft

namespace Value

mutual

/-- No removal marker occurs in a value, at any depth. -/
def DeletionFree : Value → Prop
  | null => True
  | deletion => False
  | bool _ => True
  | int _ => True
  | float _ => True
  | string _ => True
  | list items => DeletionFreeItems items
  | object entries => DeletionFreeEntries entries

/-- No removal marker occurs in items. -/
def DeletionFreeItems : List Value → Prop
  | [] => True
  | v :: rest => v.DeletionFree ∧ DeletionFreeItems rest

/-- No removal marker occurs in entries. -/
def DeletionFreeEntries : List (String × Value) → Prop
  | [] => True
  | (_, v) :: rest => v.DeletionFree ∧ DeletionFreeEntries rest

end

theorem deletionFreeItems_iff : ∀ {items : List Value},
    DeletionFreeItems items ↔ ∀ v ∈ items, v.DeletionFree
  | [] => by simp [DeletionFreeItems]
  | v :: rest => by simp [DeletionFreeItems, deletionFreeItems_iff]

/-! ## Tables -/

namespace DeletionFreeEntries

variable {entries : List (String × Value)}

/-- What is found in an object without removal markers has none. -/
theorem get? {name : String} {v : Value} (h : DeletionFreeEntries entries)
    (hv : Table.get? entries name = some v) : v.DeletionFree := by
  induction entries with
  | nil => cases hv
  | cons e rest ih =>
    obtain ⟨k, w⟩ := e
    simp only [Table.get?] at hv
    split at hv
    · cases hv
      exact h.1
    · exact ih h.2 hv

/-- An entry without removal markers brings in none. -/
theorem insert (h : DeletionFreeEntries entries) (name : String) {v : Value}
    (hv : v.DeletionFree) : DeletionFreeEntries (Table.insert entries name v) := by
  induction entries with
  | nil => exact ⟨hv, trivial⟩
  | cons e rest ih =>
    obtain ⟨k, w⟩ := e
    simp only [Table.insert]
    split
    · exact ⟨hv, h.2⟩
    · exact ⟨h.1, ih h.2⟩

theorem erase (h : DeletionFreeEntries entries) (name : String) :
    DeletionFreeEntries (Table.erase entries name) := by
  induction entries with
  | nil => exact h
  | cons e rest ih =>
    obtain ⟨k, w⟩ := e
    simp only [Table.erase]
    split
    · exact h.2
    · exact ⟨h.1, ih h.2⟩

/-- A table that is built from entries without markers has none. -/
theorem ofPairs (h : DeletionFreeEntries entries) :
    DeletionFreeEntries (Table.ofPairs entries) := by
  have hfold : ∀ (pairs : List (String × Value)) (t : Table Value), DeletionFreeEntries pairs →
      DeletionFreeEntries t →
      DeletionFreeEntries
        (pairs.foldl (fun t (e : String × Value) => Table.insert t e.1 e.2) t) := by
    intro pairs
    induction pairs with
    | nil => exact fun _ _ ht => ht
    | cons e rest ih => exact fun t hp ht => ih _ hp.2 (ht.insert e.1 hp.1)
  exact hfold entries [] h trivial

end DeletionFreeEntries

/-! ## Dropping markers -/

mutual

/-- What is not a marker itself has none once those inside it are dropped. -/
theorem deletionFree_withoutDeletions : ∀ v : Value, v.isDeletion = false →
    v.withoutDeletions.DeletionFree
  | null, _ => trivial
  | deletion, h => by cases h
  | bool _, _ => trivial
  | int _, _ => trivial
  | float _, _ => trivial
  | string _, _ => trivial
  | list items, _ => deletionFree_itemsWithoutDeletions items
  | object entries, _ => deletionFree_entriesWithoutDeletions entries

/-- No item of a list is a removal marker any more. -/
theorem deletionFree_itemsWithoutDeletions : ∀ items : List Value,
    DeletionFreeItems (itemsWithoutDeletions items)
  | [] => trivial
  | v :: rest => by
    have hrest := deletionFree_itemsWithoutDeletions rest
    simp only [itemsWithoutDeletions]
    cases hv : v.isDeletion with
    | true => exact hrest
    | false => exact ⟨deletionFree_withoutDeletions v hv, hrest⟩

theorem deletionFree_entriesWithoutDeletions : ∀ entries : List (String × Value),
    DeletionFreeEntries (entriesWithoutDeletions entries)
  | [] => trivial
  | (k, v) :: rest => by
    have hrest := deletionFree_entriesWithoutDeletions rest
    simp only [entriesWithoutDeletions]
    cases hv : v.isDeletion with
    | true => exact hrest
    | false => exact ⟨deletionFree_withoutDeletions v hv, hrest⟩

end

/-! ## Merging -/

mutual

/-- **Merging** into a value without markers gives one without markers, whatever is merged. -/
theorem deletionFree_merge : ∀ (r : Value) {l : Value}, l.DeletionFree → (l.merge r).DeletionFree
  -- Containers of one kind are merged part by part; otherwise what is merged takes the place of
  -- what was there, without its markers.
  | object r, l, h => by
    cases l with
    | object l => exact deletionFree_mergeEntries r h
    | _ => exact deletionFree_entriesWithoutDeletions r
  | list r, l, h => by
    cases l with
    | list l => exact deletionFree_mergeItems r h
    | _ => exact deletionFree_itemsWithoutDeletions r
  -- A marker by itself leaves the value as it is.
  | deletion, l, h => by
    cases l <;> exact h
  | null, l, _ => by
    cases l <;> exact trivial
  | bool b, l, _ => by
    cases l <;> exact trivial
  | int n, l, _ => by
    cases l <;> exact trivial
  | float x, l, _ => by
    cases l <;> exact trivial
  | string s, l, _ => by
    cases l <;> exact trivial

/-- Merging items brings no marker into a list: where one stands on the right, the place is left
out. The induction is on the items that are merged in. -/
theorem deletionFree_mergeItems : ∀ (rs : List Value) {ls : List Value}, DeletionFreeItems ls →
    DeletionFreeItems (mergeItems ls rs)
  | [], ls, h => by
    cases ls <;> exact h
  -- Items behind the end are appended, unless they are markers.
  | r :: rs, [], h => by
    have hrest := deletionFree_mergeItems rs h
    simp only [mergeItems]
    cases hr : r.isDeletion with
    | true => exact hrest
    | false => exact ⟨deletionFree_withoutDeletions r hr, hrest⟩
  | r :: rs, l :: ls, h => by
    have hrest := deletionFree_mergeItems rs h.2
    have hmerge := deletionFree_merge r h.1
    simp only [mergeItems]
    cases hr : r.isDeletion with
    | true => exact hrest
    | false =>
      refine ⟨?_, hrest⟩
      split
      · exact hmerge
      · exact deletionFree_withoutDeletions r hr

/-- Merging entries erases where a marker stands on the right. The induction is on the entries that
are merged in. -/
theorem deletionFree_mergeEntries : ∀ (rs : List (String × Value)) {l : List (String × Value)},
    DeletionFreeEntries l → DeletionFreeEntries (mergeEntries l rs)
  | [], _, h => h
  | (k, r) :: rest, l, h => by
    simp only [mergeEntries]
    refine deletionFree_mergeEntries rest ?_
    cases hr : r.isDeletion with
    | true => exact h.erase k
    | false =>
      refine h.insert k ?_
      cases hv : Table.get? l k with
      | none => exact deletionFree_withoutDeletions r hr
      | some v =>
        dsimp only
        split
        · exact deletionFree_merge r (h.get? hv)
        · exact deletionFree_withoutDeletions r hr

end

/-! ## Writing at a path -/

/-- A list stays without markers if one of its items is replaced by a value without any. -/
theorem DeletionFreeItems.set {items : List Value} (h : DeletionFreeItems items) (i : Nat)
    {v : Value} (hv : v.DeletionFree) : DeletionFreeItems (items.set i v) := by
  refine deletionFreeItems_iff.mpr fun w hw => ?_
  rcases List.mem_or_eq_of_mem_set hw with hw | rfl
  · exact deletionFreeItems_iff.mp h w hw
  · exact hv

theorem DeletionFreeItems.eraseIdx {items : List Value} (h : DeletionFreeItems items) (i : Nat) :
    DeletionFreeItems (items.eraseIdx i) :=
  deletionFreeItems_iff.mpr fun w hw =>
    deletionFreeItems_iff.mp h w (List.mem_of_mem_eraseIdx hw)

theorem DeletionFreeItems.getElem? {items : List Value} (h : DeletionFreeItems items) {i : Nat}
    {v : Value} (hv : items[i]? = some v) : v.DeletionFree :=
  deletionFreeItems_iff.mp h v (List.mem_of_getElem? hv)

/-- A change of one part of a value puts no marker into it if it makes no markers itself. -/
theorem DeletionFree.alter {conventions : FieldConventions} {v result : Value}
    (hv : v.DeletionFree) {segment : Segment}
    {change : Option Value → Except PathError (Option Value)}
    (hchange : ∀ child w, (∀ c, child = some c → c.DeletionFree) → change child = .ok (some w) →
      w.DeletionFree)
    (h : alter conventions v segment change = .ok result) : result.DeletionFree := by
  obtain ⟨s, answer, hs, hanswer, rfl⟩ := alter_eq_ok h
  rcases slot_eq_ok hs with ⟨entries, name, rfl, _, rfl⟩ | ⟨items, i, rfl, _, _, rfl⟩
  · cases answer with
    -- The change removes the entry, or gives it a value.
    | none => exact DeletionFreeEntries.erase hv name
    | some w =>
      have hw := hchange _ w (fun c hc => DeletionFreeEntries.get? hv hc) hanswer
      exact DeletionFreeEntries.insert hv name hw
  · cases answer with
    | none => exact DeletionFreeItems.eraseIdx hv i
    | some w =>
      have hw := hchange _ w (fun c hc => DeletionFreeItems.getElem? hv hc) hanswer
      exact DeletionFreeItems.set hv i hw

/-- **Writing** at a path that leads into a value gives a value without markers if there were
none before, whatever is written. -/
theorem DeletionFree.writeAt {conventions : FieldConventions} {new : Value} :
    ∀ {path : List Segment} {v result : Value}, path ≠ [] → v.DeletionFree →
    writeAt conventions new v path = .ok result → result.DeletionFree
  | [], _, _, hpath, _, _ => absurd rfl hpath
  -- At the end of the path stands the new value; on the way there, only parts are changed that
  -- are there already.
  | [last], v, result, _, hv, h => by
    refine hv.alter (fun child w _ hw => ?_) h
    split at hw
    · cases hw
    · rename_i hnew
      cases hw
      exact deletionFree_withoutDeletions new (Bool.eq_false_iff.mpr hnew)
  | segment :: next :: rest, v, result, _, hv, h => by
    refine hv.alter (fun child w hchild hw => ?_) h
    cases child with
    | none => cases hw
    | some c =>
      cases hrest : Value.writeAt conventions new c (next :: rest) with
      | error e =>
        simp only [hrest] at hw
        cases hw
      | ok changed =>
        simp only [hrest] at hw
        cases hw
        exact DeletionFree.writeAt (by simp) (hchild c rfl) hrest

/-! ## Reading JSON -/

mutual

/-- JSON has no markers. -/
theorem deletionFree_ofJson : ∀ j : Json, (ofJson j).DeletionFree
  | .null => trivial
  | .bool _ => trivial
  | .int n => by
    simp only [ofJson]
    split <;> exact trivial
  | .float _ => trivial
  | .string _ => trivial
  | .array items => deletionFree_itemsOfJson items
  | .object members => (deletionFree_membersOfJson members).ofPairs
  | .unreadable => trivial

/-- There is no way to write a removal marker in JSON. -/
theorem deletionFree_itemsOfJson : ∀ items : List Json, DeletionFreeItems (itemsOfJson items)
  | [] => trivial
  | j :: rest => ⟨deletionFree_ofJson j, deletionFree_itemsOfJson rest⟩

theorem deletionFree_membersOfJson : ∀ members : List (String × Json),
    DeletionFreeEntries (membersOfJson members)
  | [] => trivial
  | (_, j) :: rest => ⟨deletionFree_ofJson j, deletionFree_membersOfJson rest⟩

end

end Value

end Graft
