import Graft.Proofs.Value.Merge

/-!
Values that differ in the order of entries at most.

An object is a table, in which no key is entered twice. `Distinct` says that this is so at every
depth of a value; dropping markers and merging keep it so.

Two values are alike if they differ in the order in which objects list their entries, and in
nothing else. Doubles are alike if they are the same double, so every value is alike to itself.
The equality of the language asks for less there and for more: it compares doubles as numbers, so
a value that contains a not-a-number is not even equal to itself. Where a value is equal to
itself, it is equal to all that is alike to it.
-/

set_option autoImplicit false

namespace Graft.Value

/-! ## No key twice -/

mutual

/-- The objects in a value are tables, at every depth: none enters a key twice. -/
def Distinct : Value → Prop
  | list items => DistinctItems items
  | object entries => Table.Distinct entries ∧ DistinctEntries entries
  | _ => True

/-- The same of all items. -/
def DistinctItems : List Value → Prop
  | [] => True
  | v :: rest => v.Distinct ∧ DistinctItems rest

/-- The same of all that is entered. -/
def DistinctEntries : List (String × Value) → Prop
  | [] => True
  | (_, v) :: rest => v.Distinct ∧ DistinctEntries rest

end

namespace DistinctEntries

variable {entries : List (String × Value)} {name : String} {v : Value}

/-- In an object with distinct keys, all that is found has distinct keys too. -/
theorem get? (h : DistinctEntries entries) (hv : Table.get? entries name = some v) :
    v.Distinct := by
  induction entries with
  | nil => cases hv
  | cons e rest ih =>
    obtain ⟨k, w⟩ := e
    rw [Table.get?_cons] at hv
    split at hv
    · cases hv
      exact h.1
    · exact ih h.2 hv

theorem insert (h : DistinctEntries entries) (name : String) (hv : v.Distinct) :
    DistinctEntries (Table.insert entries name v) := by
  induction entries with
  | nil => exact ⟨hv, trivial⟩
  | cons e rest ih =>
    obtain ⟨k, w⟩ := e
    rw [Table.insert]
    split
    · exact ⟨hv, h.2⟩
    · exact ⟨h.1, ih h.2⟩

theorem erase (h : DistinctEntries entries) (name : String) :
    DistinctEntries (Table.erase entries name) := by
  induction entries with
  | nil => exact h
  | cons e rest ih =>
    obtain ⟨k, w⟩ := e
    rw [Table.erase]
    split
    · exact h.2
    · exact ⟨h.1, ih h.2⟩

end DistinctEntries

/-- Dropping markers drops names and enters none. -/
theorem names_entriesWithoutDeletions_sublist (entries : List (String × Value)) :
    (Table.names (entriesWithoutDeletions entries)).Sublist (Table.names entries) := by
  induction entries with
  | nil => exact .slnil
  | cons e rest ih =>
    obtain ⟨k, v⟩ := e
    rw [entriesWithoutDeletions]
    split
    · exact .cons k ih
    · exact .cons_cons k ih

mutual

/-- Taking out the removal markers leaves keys distinct. The cases follow the value. -/
theorem Distinct.withoutDeletions : ∀ {v : Value}, v.Distinct → v.withoutDeletions.Distinct
  | null, _ | deletion, _ | bool _, _ | int _, _ | float _, _ | string _, _ => trivial
  | list items, h => DistinctItems.withoutDeletions (h : DistinctItems items)
  | object entries, ⟨hnames, hentries⟩ =>
    ⟨hnames.sublist (names_entriesWithoutDeletions_sublist entries), hentries.withoutDeletions⟩

theorem DistinctItems.withoutDeletions : ∀ {items : List Value}, DistinctItems items →
    DistinctItems (itemsWithoutDeletions items)
  | [], _ => trivial
  | v :: rest, ⟨hv, hrest⟩ => by
    rw [itemsWithoutDeletions]
    split
    · exact hrest.withoutDeletions
    · exact ⟨hv.withoutDeletions, hrest.withoutDeletions⟩

theorem DistinctEntries.withoutDeletions : ∀ {entries : List (String × Value)},
    DistinctEntries entries → DistinctEntries (entriesWithoutDeletions entries)
  | [], _ => trivial
  | (k, v) :: rest, ⟨hv, hrest⟩ => by
    rw [entriesWithoutDeletions]
    split
    · exact hrest.withoutDeletions
    · exact ⟨hv.withoutDeletions, hrest.withoutDeletions⟩

end

mutual

/-- **Merging** repeats no key. -/
theorem Distinct.merge : ∀ {r l : Value}, l.Distinct → r.Distinct → (l.merge r).Distinct
  -- Containers of one kind are merged part by part; otherwise what is merged takes the place of
  -- what was there, without its markers.
  | object r, l, hl, ⟨hnames, hr⟩ => by
    have hreplaced : (object r).withoutDeletions.Distinct :=
      Distinct.withoutDeletions ⟨hnames, hr⟩
    cases l with
    | object l => exact ⟨distinct_mergeEntries hl.1, hl.2.merge hr⟩
    | _ => exact hreplaced
  | list r, l, hl, hr => by
    have hreplaced : (list r).withoutDeletions.Distinct := Distinct.withoutDeletions hr
    cases l with
    | list l => exact DistinctItems.merge (hl : DistinctItems l) hr
    | _ => exact hreplaced
  -- A marker by itself leaves the value as it is.
  | deletion, l, hl, _ => by
    cases l <;> exact hl
  | null, l, _, _ | bool _, l, _, _ | int _, l, _, _ | float _, l, _, _ | string _, l, _, _ => by
    cases l <;> exact trivial

theorem DistinctItems.merge : ∀ {rs ls : List Value}, DistinctItems ls → DistinctItems rs →
    DistinctItems (mergeItems ls rs)
  | [], ls, hls, _ => by
    rw [mergeItems_nil_right]
    exact hls
  -- Items behind the end are appended, unless they are markers.
  | r :: rs, [], hls, ⟨hr, hrs⟩ => by
    rw [mergeItems]
    split
    · exact DistinctItems.merge hls hrs
    · exact ⟨hr.withoutDeletions, DistinctItems.merge hls hrs⟩
  | r :: rs, l :: ls, ⟨hl, hls⟩, ⟨hr, hrs⟩ => by
    have hmerged := hl.merge hr
    rw [mergeItems]
    split
    · exact DistinctItems.merge hls hrs
    · refine ⟨?_, DistinctItems.merge hls hrs⟩
      split
      · exact hmerged
      · exact hr.withoutDeletions

theorem DistinctEntries.merge : ∀ {rs l : List (String × Value)}, DistinctEntries l →
    DistinctEntries rs → DistinctEntries (mergeEntries l rs)
  | [], l, hl, _ => by
    rw [mergeEntries_nil]
    exact hl
  | (k, r) :: rest, l, hl, ⟨hr, hrest⟩ => by
    rw [mergeEntries_cons]
    refine DistinctEntries.merge ?_ hrest
    rw [mergeEntry]
    split
    · exact hl.erase k
    · refine hl.insert k ?_
      cases hv : Table.get? l k with
      | none => exact hr.withoutDeletions
      | some v =>
        have hmerged := (hl.get? hv).merge hr
        dsimp only
        split
        · exact hmerged
        · exact hr.withoutDeletions

end

/-! ## The same up to the order of entries -/

mutual

/-- Two values differ in the order of the entries of objects at most, at every depth. -/
def Alike : Value → Value → Prop
  | list a, list b => AlikeItems a b
  | object a, object b => a.length = b.length ∧ AlikeEntries a b
  | a, b => a = b

/-- Two lists are alike item by item. -/
def AlikeItems : List Value → List Value → Prop
  | [], [] => True
  | a :: as, b :: bs => a.Alike b ∧ AlikeItems as bs
  | _, _ => False

/-- Every entry of the first table has one that is alike in the second. -/
def AlikeEntries : List (String × Value) → List (String × Value) → Prop
  | [], _ => True
  | (k, v) :: rest, b => (∃ w, Table.get? b k = some w ∧ v.Alike w) ∧ AlikeEntries rest b

end

/-- Objects are compared by looking up the keys of one in the other. -/
theorem alikeEntries_iff {a b : Table Value} :
    AlikeEntries a b ↔ ∀ k v, (k, v) ∈ a → ∃ w, Table.get? b k = some w ∧ v.Alike w := by
  induction a with
  | nil => simp [AlikeEntries]
  | cons e rest ih =>
    obtain ⟨k, v⟩ := e
    rw [AlikeEntries, ih]
    constructor
    · rintro ⟨hfirst, hrest⟩ k' v' hmem
      rcases List.mem_cons.mp hmem with he | hmem
      · cases he
        exact hfirst
      · exact hrest k' v' hmem
    · intro h
      exact ⟨h k v List.mem_cons_self, fun k' v' hmem => h k' v' (List.mem_cons_of_mem _ hmem)⟩

/-- **Key by key.** Two objects are alike if they have at each key alike values, or nothing. -/
theorem alike_object {a b : Table Value} (ha : a.Distinct) (hb : b.Distinct)
    (h : ∀ k, Option.Rel Alike (Table.get? a k) (Table.get? b k)) :
    Alike (object a) (object b) := by
  have hkeys : ∀ k, Table.has a k = Table.has b k := by
    intro k
    rw [Table.has, Table.has]
    have hk := h k
    generalize Table.get? a k = x, Table.get? b k = y at hk
    cases hk with
    | none => rfl
    | some _ => rfl
  -- Neither repeats a key, so they have as many entries.
  have hlength : a.length = b.length := ((ha.has_eq_iff hb).mp hkeys).1
  refine ⟨hlength, alikeEntries_iff.mpr fun k v hmem => ?_⟩
  have hk := h k
  rw [ha.get?_of_mem hmem] at hk
  generalize Table.get? b k = r at hk
  cases hk with
  | some hvw => exact ⟨_, rfl, hvw⟩

mutual

/-- A value without repeated keys is alike to itself. -/
theorem Distinct.alike : ∀ {v : Value}, v.Distinct → v.Alike v
  | null, _ | deletion, _ | bool _, _ | int _, _ | float _, _ | string _, _ => rfl
  | list items, h => DistinctItems.alike (h : DistinctItems items)
  | object _, ⟨hnames, hentries⟩ =>
    ⟨rfl, alikeEntries_iff.mpr fun _ _ hmem =>
      ⟨_, hnames.get?_of_mem hmem, hentries.alike hmem⟩⟩

theorem DistinctItems.alike : ∀ {items : List Value}, DistinctItems items → AlikeItems items items
  | [], _ => trivial
  | _ :: _, ⟨hv, hrest⟩ => ⟨hv.alike, hrest.alike⟩

/-- An object is like itself, since its keys are distinct. -/
theorem DistinctEntries.alike : ∀ {entries : List (String × Value)}, DistinctEntries entries →
    ∀ {k : String} {v : Value}, (k, v) ∈ entries → v.Alike v
  | (k', v') :: rest, ⟨hv, hrest⟩, k, v, hmem => by
    have hfirst := hv.alike
    rcases List.mem_cons.mp hmem with he | hmem
    · cases he
      exact hfirst
    · exact hrest.alike hmem

end

/-- What is no container is alike to itself only. -/
theorem Alike.eq {v w : Value} (h : v.Alike w) (hv : v.isContainer = false) : v = w := by
  cases v with
  | list _ | object _ => cases hv
  | _ => exact h

theorem Alike.list_cases {a : List Value} {w : Value} (h : (list a).Alike w) :
    ∃ b, w = list b ∧ AlikeItems a b := by
  cases w with
  | list b => exact ⟨b, rfl, h⟩
  | _ => cases h

theorem Alike.object_cases {a : Table Value} {w : Value} (h : (object a).Alike w) :
    ∃ b : Table Value, w = object b ∧ a.length = b.length ∧ AlikeEntries a b := by
  cases w with
  | object b => exact ⟨b, rfl, h⟩
  | _ => cases h

theorem sameEntries_iff {a b : Table Value} :
    sameEntries a b = true ↔
      ∀ k v, (k, v) ∈ a → ∃ w, Table.get? b k = some w ∧ v.same w = true := by
  induction a with
  | nil => simp [sameEntries]
  | cons e rest ih =>
    obtain ⟨k, v⟩ := e
    rw [sameEntries, Bool.and_eq_true, ih]
    constructor
    · rintro ⟨hfirst, hrest⟩ k' v' hmem
      rcases List.mem_cons.mp hmem with he | hmem
      · cases he
        cases hw : Table.get? b k with
        | none =>
          rw [hw] at hfirst
          cases hfirst
        | some w =>
          rw [hw] at hfirst
          exact ⟨w, rfl, hfirst⟩
      · exact hrest k' v' hmem
    · intro h
      obtain ⟨w, hw, hvw⟩ := h k v List.mem_cons_self
      rw [hw]
      exact ⟨hvw, fun k' v' hmem => h k' v' (List.mem_cons_of_mem _ hmem)⟩

mutual

/-- **Alike values are equal**, unless they contain what is not equal to itself. -/
theorem Alike.same : ∀ {v w : Value}, v.Alike w → v.Distinct → v.same v = true → v.same w = true
  | null, _, h, _, hv | deletion, _, h, _, hv | bool _, _, h, _, hv | int _, _, h, _, hv
  | float _, _, h, _, hv | string _, _, h, _, hv => by
    rwa [← h.eq rfl]
  | list items, w, h, hd, hv => by
    obtain ⟨others, rfl, hitems⟩ := h.list_cases
    exact AlikeItems.same hitems hd hv
  | object entries, w, h, ⟨hnames, hentries⟩, hv => by
    obtain ⟨others, rfl, hlength, hothers⟩ := h.object_cases
    rw [Value.same, Bool.and_eq_true, sameEntries_iff] at hv ⊢
    refine ⟨by simpa using hlength, fun k v hmem => ?_⟩
    -- The entry is equal to itself, since its key leads to no other.
    obtain ⟨v', hv', hself⟩ := hv.2 k v hmem
    rw [hnames.get?_of_mem hmem] at hv'
    cases hv'
    obtain ⟨w, hw, hvw⟩ := alikeEntries_iff.mp hothers k v hmem
    exact ⟨w, hw, AlikeEntries.same hentries hmem hvw hself⟩

/-- Items that are alike are the same, if those on the left are the same as themselves. -/
theorem AlikeItems.same : ∀ {items others : List Value}, AlikeItems items others →
    DistinctItems items → sameItems items items = true → sameItems items others = true
  | [], [], _, _, _ => rfl
  | _ :: _, [], h, _, _ => h.elim
  | [], _ :: _, h, _, _ => h.elim
  | _ :: _, _ :: _, ⟨hv, hrest⟩, ⟨hd, hds⟩, h => by
    rw [sameItems, Bool.and_eq_true] at h ⊢
    exact ⟨hv.same hd h.1, hrest.same hds h.2⟩

/-- What is alike to an entry is equal to it, if it is equal to itself. -/
theorem AlikeEntries.same : ∀ {entries : List (String × Value)}, DistinctEntries entries →
    ∀ {k : String} {v w : Value}, (k, v) ∈ entries → v.Alike w → v.same v = true →
    v.same w = true
  | (k', v') :: rest, ⟨hd, hds⟩, k, v, w, hmem, hvw, hself => by
    have hfirst : v'.Alike w → v'.same v' = true → v'.same w = true := fun h => h.same hd
    rcases List.mem_cons.mp hmem with he | hmem
    · cases he
      exact hfirst hvw hself
    · exact AlikeEntries.same hds hmem hvw hself

end

end Graft.Value
