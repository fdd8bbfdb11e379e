import Graft.Proofs.Value.Equality
import Graft.Proofs.Value.Unambiguous

/-!
Equality of values that hold no doubles.

Doubles compare as numbers, so a value that contains a not-a-number is not even equal to itself.
Without doubles, equality is an equivalence: what is no container is equal to itself only, lists
go item by item, and objects key by key. An object lists its entries in some order, and it is
compared by looking up the keys of one side on the other side only; but since neither side
repeats a key and both have as many, each has the keys of the other, and the order does not matter.

A value is discrete if it holds no doubles and its objects repeat no key. The statements about
discrete values go by induction on their parts.
-/

set_option autoImplicit false

namespace Graft.Value

/-! ## Parts -/

/-- **Induction on parts.** What holds of all that is no container, of a list if it holds of its
items and of an object if it holds of what is entered, holds of all values. -/
theorem inductionOnParts {P : Value → Prop} (plain : ∀ v, v.isContainer = false → P v)
    (list : ∀ items : List Value, (∀ v ∈ items, P v) → P (list items))
    (object : ∀ entries : Table Value, (∀ k v, (k, v) ∈ entries → P v) → P (object entries))
    (v : Value) : P v := by
  refine @Value.rec P (fun items => ∀ v ∈ items, P v) (fun entries => ∀ e ∈ entries, P e.2)
    (fun e => P e.2) (plain _ rfl) (plain _ rfl) (fun _ => plain _ rfl) (fun _ => plain _ rfl)
    (fun _ => plain _ rfl) (fun _ => plain _ rfl) list
    (fun entries hentries => object entries fun k v hmem => hentries (k, v) hmem)
    ?noItem ?oneMoreItem ?noEntry ?oneMoreEntry (fun _ _ hv => hv) v
  case noItem | noEntry => nofun
  case oneMoreItem => exact fun _ _ hv hrest => List.forall_mem_cons.mpr ⟨hv, hrest⟩
  case oneMoreEntry => exact fun _ _ he hrest => List.forall_mem_cons.mpr ⟨he, hrest⟩

/-- A value is discrete if no double occurs in it and its objects repeat no key, at any depth. -/
structure Discrete (v : Value) : Prop where
  distinct : v.Distinct
  floatFree : v.FloatFree

theorem distinctItems_iff {items : List Value} :
    DistinctItems items ↔ ∀ v ∈ items, v.Distinct := by
  induction items with
  | nil => simp [DistinctItems]
  | cons v rest ih => simp [DistinctItems, ih]

theorem discrete_list_iff {items : List Value} :
    (list items).Discrete ↔ ∀ v ∈ items, v.Discrete := by
  constructor
  · intro h v hv
    exact ⟨distinctItems_iff.mp h.distinct v hv, floatFreeItems_iff.mp h.floatFree v hv⟩
  · intro h
    exact ⟨distinctItems_iff.mpr fun v hv => (h v hv).distinct,
      floatFreeItems_iff.mpr fun v hv => (h v hv).floatFree⟩

namespace Discrete

variable {u v w : Value}

theorem names {entries : Table Value} (h : (object entries).Discrete) :
    Table.Distinct entries :=
  h.distinct.1

theorem entry {entries : Table Value} (h : (object entries).Discrete) {k : String}
    (hv : Table.get? entries k = some v) : v.Discrete :=
  ⟨h.distinct.2.get? hv, floatFreeEntries_iff.mp h.floatFree (k, v) (Table.mem_of_get? hv)⟩

/-- The order of the entries is no part of being discrete. -/
theorem perm {s t : Table Value} (hs : (object s).Discrete) (h : t.Perm s) :
    (object t).Discrete := by
  have hnames : Table.Distinct t := (h.map Prod.fst).nodup_iff.mpr hs.names
  refine ⟨⟨hnames, ?_⟩, ?_⟩
  · have hentries : ∀ e ∈ t, e.2.Distinct := fun e he =>
      (hs.entry (hs.names.get?_of_mem (h.mem_iff.mp he))).distinct
    clear hnames h
    induction t with
    | nil => trivial
    | cons e rest ih =>
      exact ⟨hentries e List.mem_cons_self, ih fun e he => hentries e (List.mem_cons_of_mem _ he)⟩
  · refine floatFreeEntries_iff.mpr fun e he => ?_
    exact floatFreeEntries_iff.mp hs.floatFree e (h.mem_iff.mp he)

/-! ## Equality is an equivalence -/

/-- What is no container is equal to itself only. -/
theorem same_iff_eq (hv : v.FloatFree) (hplain : v.isContainer = false) :
    v.same w = true ↔ v = w := by
  cases v with
  | float x => exact hv.elim
  | list _ | object _ => cases hplain
  | _ => cases w <;> simp [same]

theorem same_refl (h : v.Discrete) : v.same v = true := by
  induction v using inductionOnParts with
  | plain v hplain => exact (same_iff_eq h.floatFree hplain).mpr rfl
  | list items ih =>
    refine sameItems_iff.mpr ⟨rfl, fun i v w hv hw => ?_⟩
    have hmem := List.mem_of_getElem? hv
    obtain rfl := Option.some.inj (hv.symm.trans hw)
    exact ih v hmem (discrete_list_iff.mp h v hmem)
  | object entries ih =>
    refine (same_object_iff h.names h.names).mpr ⟨fun _ => rfl, fun k v w hv hw => ?_⟩
    obtain rfl := Option.some.inj (hv.symm.trans hw)
    exact ih k v (Table.mem_of_get? hv) (h.entry hv)

theorem same_symm (hv : v.Discrete) (hw : w.Discrete) (h : v.same w = true) :
    w.same v = true := by
  induction v using inductionOnParts generalizing w with
  | plain v hplain =>
    obtain rfl := (same_iff_eq hv.floatFree hplain).mp h
    exact h
  | list items ih =>
    obtain ⟨others, rfl⟩ := list_cases_of_same h
    obtain ⟨hlength, hitems⟩ := sameItems_iff.mp h
    refine sameItems_iff.mpr ⟨hlength.symm, fun i w v hw' hv' => ?_⟩
    have hmem := List.mem_of_getElem? hv'
    exact ih v hmem (discrete_list_iff.mp hv v hmem)
      (discrete_list_iff.mp hw w (List.mem_of_getElem? hw')) (hitems i v w hv' hw')
  | object entries ih =>
    obtain ⟨others, rfl⟩ := object_cases_of_same h
    -- Both have the same keys, which is a symmetric thing to say.
    obtain ⟨hkeys, hentries⟩ := (same_object_iff hv.names hw.names).mp h
    refine (same_object_iff hw.names hv.names).mpr
      ⟨fun k => (hkeys k).symm, fun k w v hw' hv' => ?_⟩
    exact ih k v (Table.mem_of_get? hv') (hv.entry hv') (hw.entry hw') (hentries k v w hv' hw')

theorem same_trans (hu : u.Discrete) (hv : v.Discrete) (hw : w.Discrete) (h : u.same v = true)
    (h' : v.same w = true) : u.same w = true := by
  induction u using inductionOnParts generalizing v w with
  | plain u hplain =>
    obtain rfl := (same_iff_eq hu.floatFree hplain).mp h
    exact h'
  | list items ih =>
    obtain ⟨between, rfl⟩ := list_cases_of_same h
    obtain ⟨others, rfl⟩ := list_cases_of_same h'
    obtain ⟨hlength, hitems⟩ := sameItems_iff.mp h
    obtain ⟨hlength', hitems'⟩ := sameItems_iff.mp h'
    refine sameItems_iff.mpr ⟨hlength.trans hlength', fun i u w hu' hw' => ?_⟩
    -- The list between is as long, so it has an item here.
    have hlt : i < between.length := hlength ▸ (List.getElem?_eq_some_iff.mp hu').1
    have hv' := List.getElem?_eq_getElem hlt
    have hmem := List.mem_of_getElem? hu'
    exact ih u hmem (discrete_list_iff.mp hu u hmem)
      (discrete_list_iff.mp hv _ (List.mem_of_getElem? hv'))
      (discrete_list_iff.mp hw w (List.mem_of_getElem? hw'))
      (hitems i u _ hu' hv') (hitems' i _ w hv' hw')
  | object entries ih =>
    obtain ⟨between, rfl⟩ := object_cases_of_same h
    obtain ⟨others, rfl⟩ := object_cases_of_same h'
    obtain ⟨hkeys, hentries⟩ := (same_object_iff hu.names hv.names).mp h
    obtain ⟨hkeys', hentries'⟩ := (same_object_iff hv.names hw.names).mp h'
    refine (same_object_iff hu.names hw.names).mpr
      ⟨fun k => (hkeys k).trans (hkeys' k), fun k u w hu' hw' => ?_⟩
    have hk : Table.has between k = true := by
      rw [← hkeys k, Table.has, hu', Option.isSome_some]
    obtain ⟨v, hv'⟩ := Option.isSome_iff_exists.mp hk
    exact ih k u (Table.mem_of_get? hu') (hu.entry hu') (hv.entry hv') (hw.entry hw')
      (hentries k u v hu' hv') (hentries' k v w hv' hw')

theorem same_comm (hv : v.Discrete) (hw : w.Discrete) : v.same w = w.same v :=
  Bool.eq_iff_iff.mpr ⟨hv.same_symm hw, hw.same_symm hv⟩

/-- Equal values are equal to the same values. -/
theorem same_congr (hu : u.Discrete) (hv : v.Discrete) (hw : w.Discrete)
    (h : u.same v = true) : u.same w = v.same w :=
  Bool.eq_iff_iff.mpr ⟨same_trans hv hu hw (same_symm hu hv h), same_trans hu hv hw h⟩

/-- **Order of entries.** Objects that list the same entries in different orders are equal. -/
theorem same_of_perm {s t : Table Value} (hs : (object s).Discrete) (h : t.Perm s) :
    (object s).same (object t) = true := by
  have hget := hs.names.get?_of_perm h
  refine (same_object_iff hs.names (hs.perm h).names).mpr ⟨fun k => ?_, fun k v w hv hw => ?_⟩
  · rw [Table.has, Table.has, hget]
  · rw [hget, hv] at hw
    obtain rfl := Option.some.inj hw
    exact (hs.entry hv).same_refl

/-- So the order of entries does not matter to any comparison of objects. -/
theorem same_perm {s s' t t' : Table Value} (hs : (object s).Discrete)
    (ht : (object t).Discrete) (h : s'.Perm s) (h' : t'.Perm t) :
    (object s').same (object t') = (object s).same (object t) := by
  have hs' := hs.perm h
  have ht' := ht.perm h'
  calc (object s').same (object t')
      = (object s).same (object t') := (hs.same_congr hs' ht' (hs.same_of_perm h)).symm
    _ = (object t').same (object s) := hs.same_comm ht'
    _ = (object t).same (object s) := (ht.same_congr ht' hs (ht.same_of_perm h')).symm
    _ = (object s).same (object t) := ht.same_comm hs

end Discrete

end Graft.Value
