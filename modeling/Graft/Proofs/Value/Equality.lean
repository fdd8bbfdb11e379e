import Graft.Proofs.Value.Lens
import Graft.Value.Arithmetic

/-!
How equality goes with nesting.

A whole number and a double are equal to the operators if they have one value. That holds of the
two values an operator is given; what is inside them is compared by structure, and there the two
kinds of numbers are different. So `1` is equal to `1.0`, and a list of the one is not equal to a
list of the other.

`ByValue` is the comparison that treats the pairs inside like the pair outside. Equality is that
comparison, provided that no whole number stands where the other value has a double below the
top. One level at a time: lists and objects are equal if their parts are pairwise equal and no
part of the one is a whole number where the other has a double.
-/

set_option autoImplicit false

namespace Graft.Value

/-! ## Two kinds of numbers -/

/-- One of two values is a whole number and the other a double. -/
def Mixed : Value → Value → Prop
  | int _, float _ => True
  | float _, int _ => True
  | _, _ => False

variable {v w : Value}

theorem Mixed.not_containers (h : Mixed v w) : v.isContainer = false ∧ w.isContainer = false := by
  cases v <;> cases w <;> first | exact h.elim | exact ⟨rfl, rfl⟩

/-- The structures of a whole number and of a double differ. -/
theorem Mixed.same_eq_false (h : Mixed v w) : v.same w = false := by
  cases v <;> cases w <;> first | exact h.elim | rfl

/-- Any other pair is compared by structure. -/
theorem equals_of_not_mixed (h : ¬ Mixed v w) : v.equals w = v.same w := by
  cases v <;> cases w <;> first | rfl | exact (h trivial).elim

/-- **Equality of structure** is equality of values that are not a whole number and a double. -/
theorem same_eq_true_iff : v.same w = true ↔ v.equals w = true ∧ ¬ Mixed v w := by
  by_cases h : Mixed v w
  · rw [h.same_eq_false]
    simp [h]
  · rw [equals_of_not_mixed h]
    simp [h]

/-- A container has the structure of a container only. -/
theorem isContainer_eq_of_same (h : v.same w = true) : v.isContainer = w.isContainer := by
  cases v <;> cases w <;> first | rfl | cases h

/-! ## Equality of structure, part by part -/

theorem sameItems_iff {a b : List Value} :
    sameItems a b = true ↔
      a.length = b.length ∧
        ∀ (i : Nat) (v w : Value), a[i]? = some v → b[i]? = some w → v.same w = true := by
  induction a generalizing b with
  | nil => cases b <;> simp [sameItems]
  | cons x as ih =>
    cases b with
    | nil => simp [sameItems]
    | cons y bs =>
      rw [sameItems, Bool.and_eq_true, ih, List.length_cons, List.length_cons,
        Nat.add_right_cancel_iff]
      constructor
      · rintro ⟨hfirst, hlength, hrest⟩
        refine ⟨hlength, fun i v w hv hw => ?_⟩
        cases i with
        | zero =>
          cases hv
          cases hw
          exact hfirst
        | succ i => exact hrest i v w hv hw
      · rintro ⟨hlength, h⟩
        exact ⟨h 0 x y rfl rfl, hlength, fun i v w => h (i + 1) v w⟩

/-- Two objects that repeat no key have one structure if they have the same keys, with values of
one structure. -/
theorem same_object_iff {a b : Table Value} (ha : a.Distinct) (hb : b.Distinct) :
    (object a).same (object b) = true ↔
      (∀ k, Table.has a k = Table.has b k) ∧
        ∀ k v w, Table.get? a k = some v → Table.get? b k = some w → v.same w = true := by
  rw [same, Bool.and_eq_true, sameEntries_iff, beq_iff_eq, ha.has_eq_iff hb, and_assoc]
  refine and_congr_right fun _ => ?_
  constructor
  · intro hentries
    refine ⟨fun k hk => ?_, fun k v w hv hw => ?_⟩
    · obtain ⟨v, hv⟩ := Option.isSome_iff_exists.mp hk
      obtain ⟨w, hw, -⟩ := hentries k v (Table.mem_of_get? hv)
      rw [Table.has, hw, Option.isSome_some]
    · obtain ⟨w', hw', hsame⟩ := hentries k v (Table.mem_of_get? hv)
      rw [hw] at hw'
      cases hw'
      exact hsame
  · rintro ⟨hkeys, hparts⟩ k v hmem
    have hv := ha.get?_of_mem hmem
    have hk : Table.has a k = true := by rw [Table.has, hv, Option.isSome_some]
    obtain ⟨w, hw⟩ := Option.isSome_iff_exists.mp (hkeys k hk)
    exact ⟨w, hw, hparts k v w hv hw⟩

/-! ## Comparing by value at every depth -/

/-- Two values are equal if whole numbers and doubles are compared by value at every depth. -/
inductive ByValue : Value → Value → Prop
  | plain {v w : Value} (hv : v.isContainer = false) (hw : w.isContainer = false)
      (h : v.equals w = true) : ByValue v w
  | items {a b : List Value} (hlength : a.length = b.length)
      (hitems : ∀ (i : Nat) (v w : Value), a[i]? = some v → b[i]? = some w → ByValue v w) :
      ByValue (list a) (list b)
  | entries {a b : Table Value} (hkeys : ∀ k, Table.has a k = Table.has b k)
      (hentries : ∀ k v w, Table.get? a k = some v → Table.get? b k = some w → ByValue v w) :
      ByValue (object a) (object b)

/-- At one place in both, reached by the same indices and keys, one of two values has a whole
number and the other a double. -/
inductive MixedWithin : Value → Value → Prop
  | here {v w : Value} (h : Mixed v w) : MixedWithin v w
  | item {a b : List Value} {i : Nat} {v w : Value} (hv : a[i]? = some v) (hw : b[i]? = some w)
      (h : MixedWithin v w) : MixedWithin (list a) (list b)
  | entry {a b : Table Value} {k : String} {v w : Value} (hv : Table.get? a k = some v)
      (hw : Table.get? b k = some w) (h : MixedWithin v w) : MixedWithin (object a) (object b)

/-- That place is not the values themselves. -/
def MixedBelow (v w : Value) : Prop :=
  MixedWithin v w ∧ ¬ Mixed v w

theorem byValue_iff_of_plain (hv : v.isContainer = false) :
    ByValue v w ↔ w.isContainer = false ∧ v.equals w = true := by
  constructor
  · intro h
    cases h with
    | plain _ hw h => exact ⟨hw, h⟩
    | items _ _ | entries _ _ => cases hv
  · rintro ⟨hw, h⟩
    exact .plain hv hw h

theorem mixedWithin_iff_of_plain (hv : v.isContainer = false) : MixedWithin v w ↔ Mixed v w := by
  constructor
  · intro h
    cases h with
    | here h => exact h
    | item _ _ _ | entry _ _ _ => cases hv
  · exact .here

theorem byValue_list_iff {a b : List Value} :
    ByValue (list a) (list b) ↔
      a.length = b.length ∧
        ∀ (i : Nat) (v w : Value), a[i]? = some v → b[i]? = some w → ByValue v w := by
  constructor
  · intro h
    cases h with
    | plain hv _ _ => cases hv
    | items hlength hitems => exact ⟨hlength, hitems⟩
  · rintro ⟨hlength, hitems⟩
    exact .items hlength hitems

theorem mixedWithin_list_iff {a b : List Value} :
    MixedWithin (list a) (list b) ↔
      ∃ (i : Nat) (v w : Value), a[i]? = some v ∧ b[i]? = some w ∧ MixedWithin v w := by
  constructor
  · intro h
    cases h with
    | here h => exact h.elim
    | item hv hw h => exact ⟨_, _, _, hv, hw, h⟩
  · rintro ⟨i, v, w, hv, hw, h⟩
    exact .item hv hw h

theorem byValue_object_iff {a b : Table Value} :
    ByValue (object a) (object b) ↔
      (∀ k, Table.has a k = Table.has b k) ∧
        ∀ k v w, Table.get? a k = some v → Table.get? b k = some w → ByValue v w := by
  constructor
  · intro h
    cases h with
    | plain hv _ _ => cases hv
    | entries hkeys hentries => exact ⟨hkeys, hentries⟩
  · rintro ⟨hkeys, hentries⟩
    exact .entries hkeys hentries

theorem mixedWithin_object_iff {a b : Table Value} :
    MixedWithin (object a) (object b) ↔
      ∃ k v w, Table.get? a k = some v ∧ Table.get? b k = some w ∧ MixedWithin v w := by
  constructor
  · intro h
    cases h with
    | here h => exact h.elim
    | entry hv hw h => exact ⟨_, _, _, hv, hw, h⟩
  · rintro ⟨k, v, w, hv, hw, h⟩
    exact .entry hv hw h

/-- A list is comparable with lists only. -/
theorem ByValue.list_cases {a : List Value} (h : ByValue (list a) w) : ∃ b, w = list b := by
  cases h with
  | plain hv _ _ => cases hv
  | items _ _ => exact ⟨_, rfl⟩

theorem ByValue.object_cases {a : Table Value} (h : ByValue (object a) w) :
    ∃ b : Table Value, w = object b := by
  cases h with
  | plain hv _ _ => cases hv
  | entries _ _ => exact ⟨_, rfl⟩

theorem list_cases_of_same {a : List Value} (h : (list a).same w = true) : ∃ b, w = list b := by
  cases w with
  | list b => exact ⟨b, rfl⟩
  | _ => cases h

theorem object_cases_of_same {a : Table Value} (h : (object a).same w = true) :
    ∃ b : Table Value, w = object b := by
  cases w with
  | object b => exact ⟨b, rfl⟩
  | _ => cases h

theorem same_iff_of_plain (hv : v.isContainer = false) :
    v.same w = true ↔ ByValue v w ∧ ¬ MixedWithin v w := by
  rw [byValue_iff_of_plain hv, mixedWithin_iff_of_plain hv, same_eq_true_iff]
  constructor
  · rintro ⟨hequal, hmixed⟩
    have hsame : v.same w = true := same_eq_true_iff.mpr ⟨hequal, hmixed⟩
    exact ⟨⟨(isContainer_eq_of_same hsame).symm.trans hv, hequal⟩, hmixed⟩
  · rintro ⟨⟨-, hequal⟩, hmixed⟩
    exact ⟨hequal, hmixed⟩

mutual

/-- **Structure and value.** Two values that repeat no key have one structure if they are equal
by value and no whole number stands in the one where the other has a double. -/
theorem Distinct.same_iff : ∀ {v w : Value}, v.Distinct → w.Distinct →
    (v.same w = true ↔ ByValue v w ∧ ¬ MixedWithin v w)
  | null, _, _, _ | deletion, _, _, _ | bool _, _, _, _ | int _, _, _, _ | float _, _, _, _
  | string _, _, _, _ => same_iff_of_plain rfl
  | list a, w, ha, hw => by
    by_cases hlist : ∃ b, w = list b
    · obtain ⟨b, rfl⟩ := hlist
      have hitems : ∀ (i : Nat) (v w : Value), a[i]? = some v → b[i]? = some w →
          (v.same w = true ↔ ByValue v w ∧ ¬ MixedWithin v w) :=
        fun i v w hv hw' => DistinctItems.same_iff ha hv (DistinctItems.getElem? hw hw')
      rw [same, sameItems_iff, byValue_list_iff, mixedWithin_list_iff]
      constructor
      · rintro ⟨hlength, hsame⟩
        refine ⟨⟨hlength, fun i v w hv hw => ?_⟩, ?_⟩
        · exact ((hitems i v w hv hw).mp (hsame i v w hv hw)).1
        · rintro ⟨i, v, w, hv, hw, hmixed⟩
          exact ((hitems i v w hv hw).mp (hsame i v w hv hw)).2 hmixed
      · rintro ⟨⟨hlength, hequal⟩, hmixed⟩
        refine ⟨hlength, fun i v w hv hw => (hitems i v w hv hw).mpr ?_⟩
        exact ⟨hequal i v w hv hw, fun h => hmixed ⟨i, v, w, hv, hw, h⟩⟩
    · constructor
      · intro h
        exact (hlist (list_cases_of_same h)).elim
      · intro h
        exact (hlist h.1.list_cases).elim
  | object a, w, ⟨hnames, ha⟩, hw => by
    by_cases hobject : ∃ b : Table Value, w = object b
    · obtain ⟨b, rfl⟩ := hobject
      have hentries : ∀ k v w, Table.get? a k = some v → Table.get? b k = some w →
          (v.same w = true ↔ ByValue v w ∧ ¬ MixedWithin v w) :=
        fun k v w hv hw' => DistinctEntries.same_iff ha hv (hw.2.get? hw')
      rw [same_object_iff hnames hw.1, byValue_object_iff, mixedWithin_object_iff]
      constructor
      · rintro ⟨hkeys, hsame⟩
        refine ⟨⟨hkeys, fun k v w hv hw => ?_⟩, ?_⟩
        · exact ((hentries k v w hv hw).mp (hsame k v w hv hw)).1
        · rintro ⟨k, v, w, hv, hw, hmixed⟩
          exact ((hentries k v w hv hw).mp (hsame k v w hv hw)).2 hmixed
      · rintro ⟨⟨hkeys, hequal⟩, hmixed⟩
        refine ⟨hkeys, fun k v w hv hw => (hentries k v w hv hw).mpr ?_⟩
        exact ⟨hequal k v w hv hw, fun h => hmixed ⟨k, v, w, hv, hw, h⟩⟩
    · constructor
      · intro h
        exact (hobject (object_cases_of_same h)).elim
      · intro h
        exact (hobject h.1.object_cases).elim

theorem DistinctItems.same_iff : ∀ {items : List Value}, DistinctItems items →
    ∀ {i : Nat} {v w : Value}, items[i]? = some v → w.Distinct →
    (v.same w = true ↔ ByValue v w ∧ ¬ MixedWithin v w)
  | x :: rest, ⟨hx, hrest⟩, i, v, w, hv, hw => by
    have hfirst := hx.same_iff hw
    cases i with
    | zero =>
      obtain rfl : x = v := Option.some.inj hv
      exact hfirst
    | succ i => exact DistinctItems.same_iff hrest hv hw

theorem DistinctEntries.same_iff : ∀ {entries : List (String × Value)}, DistinctEntries entries →
    ∀ {k : String} {v w : Value}, Table.get? entries k = some v → w.Distinct →
    (v.same w = true ↔ ByValue v w ∧ ¬ MixedWithin v w)
  | (name, x) :: rest, ⟨hx, hrest⟩, k, v, w, hv, hw => by
    have hfirst := hx.same_iff hw
    rw [Table.get?_cons] at hv
    split at hv
    · obtain rfl : x = v := Option.some.inj hv
      exact hfirst
    · exact hrest.same_iff hv hw

end

/-! ## Equality -/

/-- Two lists are equal if they are as long and equal item by item, where no item of the one is a
whole number and that of the other a double. -/
theorem equals_list_iff {a b : List Value} :
    (list a).equals (list b) = true ↔
      a.length = b.length ∧
        ∀ (i : Nat) (v w : Value), a[i]? = some v → b[i]? = some w →
          v.equals w = true ∧ ¬ Mixed v w := by
  simp only [← same_eq_true_iff]
  exact sameItems_iff

/-- Two objects are equal if they have the same keys and are equal at each, where no value of the
one is a whole number and that of the other a double. -/
theorem equals_object_iff {a b : Table Value} (ha : a.Distinct) (hb : b.Distinct) :
    (object a).equals (object b) = true ↔
      (∀ k, Table.has a k = Table.has b k) ∧
        ∀ k v w, Table.get? a k = some v → Table.get? b k = some w →
          v.equals w = true ∧ ¬ Mixed v w := by
  simp only [← same_eq_true_iff]
  exact same_object_iff ha hb

theorem equals_iff_byValue (hv : v.Distinct) (hw : w.Distinct) :
    v.equals w = true ↔ ByValue v w ∧ ¬ MixedBelow v w := by
  by_cases hmixed : Mixed v w
  · -- Nothing is below a number.
    have hbelow : ¬ MixedBelow v w := fun h => h.2 hmixed
    obtain ⟨hv, hw⟩ := hmixed.not_containers
    rw [byValue_iff_of_plain hv]
    exact ⟨fun h => ⟨⟨hw, h⟩, hbelow⟩, fun h => h.1.2⟩
  · have hbelow : MixedBelow v w ↔ MixedWithin v w := and_iff_left hmixed
    rw [hbelow, equals_of_not_mixed hmixed]
    exact hv.same_iff hw

/-- **Equality and nesting.** Lists and objects are equal if their parts are pairwise equal and
none of these pairs is a whole number and a double; so any two values are equal if they are equal
by value at every depth and a whole number meets a double at the top only. -/
theorem equals_nested (a b : List Value) (s t : Table Value) (v w : Value) :
    ((list a).equals (list b) = true ↔
      a.length = b.length ∧
        ∀ (i : Nat) (v w : Value), a[i]? = some v → b[i]? = some w →
          v.equals w = true ∧ ¬ Mixed v w) ∧
    (s.Distinct → t.Distinct →
      ((object s).equals (object t) = true ↔
        (∀ k, Table.has s k = Table.has t k) ∧
          ∀ k v w, Table.get? s k = some v → Table.get? t k = some w →
            v.equals w = true ∧ ¬ Mixed v w)) ∧
    (v.Distinct → w.Distinct → (v.equals w = true ↔ ByValue v w ∧ ¬ MixedBelow v w)) :=
  ⟨equals_list_iff, equals_object_iff, equals_iff_byValue⟩

/-- Two objects that list their entries in different orders are equal; where one holds a whole
number and the other the double of its value, they are equal by value only. -/
theorem equals_nested_reordered :
    Table.Distinct [("a", int 1), ("b", null)] ∧ Table.Distinct [("b", null), ("a", int 1)] ∧
    (object [("a", int 1), ("b", null)]).equals (object [("b", null), ("a", int 1)]) = true ∧
    ByValue (object [("a", int 1)]) (object [("a", float 1.0)]) ∧
    (object [("a", int 1)]).equals (object [("a", float 1.0)]) = false := by
  have hobject := fun s t : Table Value => (equals_nested [] [] s t null null).2.1
  have hnames : Table.Distinct [("a", int 1), ("b", null)] := by
    simp [Table.Distinct, Table.names]
  have hnames' : Table.Distinct [("b", null), ("a", int 1)] := by
    simp [Table.Distinct, Table.names]
  have hget : ∀ k, Table.get? [("a", int 1), ("b", null)] k =
      Table.get? [("b", null), ("a", int 1)] k := hnames'.get?_of_perm (.swap _ _ _)
  have hone : (int 1).equals (float 1.0) = true := by decide +kernel
  have hname : Table.Distinct [("a", int 1)] ∧ Table.Distinct [("a", float 1.0)] :=
    ⟨List.nodup_singleton _, List.nodup_singleton _⟩
  refine ⟨hnames, hnames', ?_, ?_, ?_⟩
  · refine (hobject _ _ hnames hnames').mpr ⟨fun k => ?_, fun k v w hv hw => ?_⟩
    · rw [Table.has, Table.has, hget]
    · rw [hget, hw] at hv
      cases hv
      rcases List.mem_pair.mp (Table.mem_of_get? hw) with he | he <;> cases he <;>
        exact ⟨rfl, id⟩
  · refine .entries (fun k => ?_) fun k v w hv hw => ?_
    · rw [Table.has, Table.has, Table.get?_cons, Table.get?_cons]
      split <;> rfl
    · cases List.mem_singleton.mp (Table.mem_of_get? hv)
      cases List.mem_singleton.mp (Table.mem_of_get? hw)
      exact .plain rfl rfl hone
  · rw [← Bool.not_eq_true, hobject _ _ hname.1 hname.2]
    rintro ⟨-, hparts⟩
    exact (hparts "a" _ _ rfl rfl).2 trivial

/-- Items that are equal in pairs do not make two lists equal. -/
theorem equals_list_not_pairwise :
    ¬ ((list [int 1]).equals (list [float 1.0]) = true ↔
      [int 1].length = [float 1.0].length ∧
        ∀ (i : Nat) (v w : Value), [int 1][i]? = some v → [float 1.0][i]? = some w →
          v.equals w = true) := by
  intro h
  have hone : (int 1).equals (float 1.0) = true := by decide +kernel
  have hequal : (list [int 1]).equals (list [float 1.0]) = true := by
    refine h.mpr ⟨rfl, fun i v w hv hw => ?_⟩
    cases i with
    | zero =>
      cases hv
      cases hw
      exact hone
    | succ i => cases hv
  cases hequal

end Graft.Value
