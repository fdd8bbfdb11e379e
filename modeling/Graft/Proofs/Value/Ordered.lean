import Graft.Proofs.Text.Bytes
import Graft.Proofs.Value.Unambiguous
import Graft.Run.Failure

/-!
The order of values.

Whole numbers are ordered among each other, and so are texts, by their bytes. Doubles apart, no
other two values can be compared: that they can be shows that they are of one of these two kinds,
and of which.
-/

set_option autoImplicit false

namespace Graft.Value

/-- The order of whole numbers, and that of texts by their bytes. -/
def AtMost : Value → Value → Prop
  | int a, int b => a.toInt ≤ b.toInt
  | string a, string b => Text.bytes a ≤ Text.bytes b
  | _, _ => False

/-- The items of a list are all whole numbers or all texts. -/
def OneOrder (items : List Value) : Prop :=
  (∃ ns : List Int64, items = ns.map int) ∨ ∃ ss : List String, items = ss.map string

/-- The two kinds of values that have an order. -/
inductive Ordered : (Value → Prop) → Prop
  | numbers : Ordered fun v => ∃ n, v = int n
  | texts : Ordered fun v => ∃ s, v = string s

theorem oneOrder_iff {items : List Value} :
    OneOrder items ↔ ∃ K, Ordered K ∧ ∀ v ∈ items, K v := by
  have hmap : ∀ {α : Type} (f : α → Value),
      (∃ xs : List α, items = xs.map f) ↔ ∀ v ∈ items, ∃ x, v = f x := by
    intro α f
    constructor
    · rintro ⟨xs, rfl⟩ v hv
      obtain ⟨x, -, rfl⟩ := List.mem_map.mp hv
      exact ⟨x, rfl⟩
    · intro h
      induction items with
      | nil => exact ⟨[], rfl⟩
      | cons v rest ih =>
        obtain ⟨x, rfl⟩ := h v List.mem_cons_self
        obtain ⟨xs, rfl⟩ := ih fun w hw => h w (List.mem_cons_of_mem _ hw)
        exact ⟨x :: xs, rfl⟩
  rw [OneOrder, hmap, hmap]
  constructor
  · rintro (h | h)
    · exact ⟨_, .numbers, h⟩
    · exact ⟨_, .texts, h⟩
  · rintro ⟨K, hK, h⟩
    cases hK with
    | numbers => exact .inl h
    | texts => exact .inr h

variable {K L : Value → Prop} {u v w : Value}

theorem AtMost.trans (h : AtMost u v) (h' : AtMost v w) : AtMost u w := by
  cases u with
  | int a =>
    cases v with
    | int b =>
      cases w with
      | int c => exact Int.le_trans h h'
      | _ => exact h'.elim
    | _ => exact h.elim
  | string a =>
    cases v with
    | string b =>
      cases w with
      | string c => exact List.le_trans h h'
      | _ => exact h'.elim
    | _ => exact h.elim
  | _ => exact h.elim

namespace Ordered

/-- No value is of both kinds. -/
theorem eq_of_mem (hK : Ordered K) (hL : Ordered L) (hv : K v) (hv' : L v) : K = L := by
  cases hK with
  | numbers =>
    obtain ⟨n, rfl⟩ := hv
    cases hL with
    | numbers => rfl
    | texts =>
      obtain ⟨s, hs⟩ := hv'
      cases hs
  | texts =>
    obtain ⟨s, rfl⟩ := hv
    cases hL with
    | texts => rfl
    | numbers =>
      obtain ⟨n, hn⟩ := hv'
      cases hn

theorem total (hK : Ordered K) (hv : K v) (hw : K w) : AtMost v w ∨ AtMost w v := by
  cases hK with
  | numbers =>
    obtain ⟨a, rfl⟩ := hv
    obtain ⟨b, rfl⟩ := hw
    exact Int.le_total a.toInt b.toInt
  | texts =>
    obtain ⟨a, rfl⟩ := hv
    obtain ⟨b, rfl⟩ := hw
    exact List.le_total (Text.bytes a) (Text.bytes b)

/-- Values of one kind are compared as they are ordered. -/
theorem order (hK : Ordered K) (hv : K v) (hw : K w) :
    ∃ o, order .lessThan v w = .ok o ∧ (o = .lt ↔ ¬ AtMost w v) ∧ (o = .gt ↔ ¬ AtMost v w) := by
  cases hK with
  | numbers =>
    obtain ⟨a, rfl⟩ := hv
    obtain ⟨b, rfl⟩ := hw
    refine ⟨_, rfl, ?_, ?_⟩
    · rw [AtMost, compare_lt_iff_lt, Int.not_le]
    · rw [AtMost, compare_gt_iff_gt, Int.not_le]
  | texts =>
    obtain ⟨a, rfl⟩ := hv
    obtain ⟨b, rfl⟩ := hw
    refine ⟨_, rfl, ?_, ?_⟩
    · rw [AtMost, compare_lt_iff_lt, Text.bytes_le_iff, not_le]
    · rw [AtMost, compare_gt_iff_gt, Text.bytes_le_iff, not_le]

/-- Without doubles, only values of one kind can be compared. -/
theorem of_order {o : Ordering} (hv : v.FloatFree) (hw : w.FloatFree)
    (h : Value.order .lessThan v w = .ok o) : ∃ K, Ordered K ∧ K v ∧ K w := by
  cases v with
  | float x => exact hv.elim
  | int a =>
    cases w with
    | int b => exact ⟨_, .numbers, ⟨a, rfl⟩, ⟨b, rfl⟩⟩
    | float x => exact hw.elim
    | _ => cases h
  | string a =>
    cases w with
    | string b => exact ⟨_, .texts, ⟨a, rfl⟩, ⟨b, rfl⟩⟩
    | _ => cases h
  | _ => cases w <;> cases h

end Ordered

/-- Where values cannot be compared, it is for their types. -/
theorem trouble_of_order {op : BinaryOp} {e : OperatorError} (h : order op v w = .error e) :
    (Cause.operator e).trouble = .type := by
  unfold order at h
  split at h
  · cases h
  · cases h
  · split at h
    · split at h
      · cases h
      · cases h
        rfl
    · cases h
      rfl

/-- Values are ranked by an order of which the better value comes out as `beats`. -/
structure Ranks (beats : Ordering) (R : Value → Value → Prop) : Prop where
  trans : ∀ {u v w : Value}, R u v → R v w → R u w
  total : ∀ {K : Value → Prop} {v w : Value}, Ordered K → K v → K w → R v w ∨ R w v
  order : ∀ {K : Value → Prop} {v w : Value}, Ordered K → K v → K w →
    ∃ o, Value.order .lessThan v w = .ok o ∧ (o = beats ↔ ¬ R w v)

theorem Ranks.least : Ranks .lt AtMost where
  trans := AtMost.trans
  total hK hv hw := hK.total hv hw
  order hK hv hw := (hK.order hv hw).imp fun _ ho => ⟨ho.1, ho.2.1⟩

theorem Ranks.greatest : Ranks .gt fun v w => AtMost w v where
  trans h h' := h'.trans h
  total hK hv hw := hK.total hw hv
  order hK hv hw := (hK.order hv hw).imp fun _ ho => ⟨ho.1, ho.2.2⟩

end Graft.Value
