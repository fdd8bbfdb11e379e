import Graft.Host.Basic
import Graft.Selector.Match

/-!
The operations of the host, told from their results.

An operation that succeeds has found its element editable and has made a new store. Each is
inverted here once, so that what holds of the stores it makes is proved of updates and of
new elements only.
-/

set_option autoImplicit false

namespace Graft.Host

/-! ## Updates -/

/-- There is nothing to change where there is no element. -/
theorem update_of_size_le {h : Host} {id : ElementId} (hid : h.elements.size ≤ id)
    (change : Element → Element) : h.update id change = h := by
  have hmodify : h.elements.modify id change = h.elements := by
    apply Array.ext
    · exact Array.size_modify
    · intro i hi hi'
      rw [Array.getElem_modify, if_neg (by omega)]
  rw [update, hmodify]

/-- A field that a change leaves alone is the same for all elements behind an update. -/
theorem field_update {α : Type} (h : Host) (id other : ElementId) {change : Element → Element}
    {f : Element → α} (hchange : ∀ e, f (change e) = f e) :
    f ((h.update id change).get other) = f (h.get other) := by
  by_cases hid : id < h.elements.size
  · rw [get_update h id other change hid]
    split
    · exact hchange _
    · rfl
  · rw [update_of_size_le (Nat.not_lt.mp hid)]

/-- What is no element looks like one without anything. -/
theorem get_of_size_le {h : Host} {id : ElementId} (hid : h.elements.size ≤ id) :
    h.get id = default := by
  simp [get, Array.getD, Nat.not_lt.mpr hid]

@[simp] theorem size_push (h : Host) (e : Element) :
    (h.push e).2.elements.size = h.elements.size + 1 :=
  Array.size_push _

/-! ## Results -/

section

variable {h h' : Host} {id : ElementId}

/-- An element is edited unless it has been deleted or is read-only. -/
theorem checkEditable_eq_ok_iff :
    h.checkEditable id = .ok () ↔ (h.get id).deleted = false ∧ (h.get id).readOnly = false := by
  simp only [checkEditable]
  cases (h.get id).deleted <;> cases (h.get id).readOnly <;> simp

/-- A value is set in an element that is editable, and nothing else is asked. -/
theorem set_eq_ok_iff {v : Value} :
    h.set id v = .ok h' ↔
      h.checkEditable id = .ok () ∧
        h' = h.update id fun e => { e with value := v, modified := true } := by
  unfold set
  cases h.checkEditable id with
  | error e => simp [bind, Except.bind]
  | ok _ => simp [bind, Except.bind, pure, Except.pure, eq_comm]

theorem merge_eq_ok_iff {v : Value} :
    h.merge id v = .ok h' ↔
      h.checkEditable id = .ok () ∧
        h' = h.update id fun e => { e with value := e.value.merge v, modified := true } := by
  unfold merge
  cases h.checkEditable id with
  | error e => simp [bind, Except.bind]
  | ok _ => simp [bind, Except.bind, pure, Except.pure, eq_comm]

/-- The store behind the deletion of an element that hangs below `parent`. -/
def detached (h : Host) (parent id : ElementId) : Host :=
  (h.update parent fun e =>
    { e with children := e.children.filter (· != id), modified := true }).update id
      fun e => { e with deleted := true, modified := true }

/-- Of the parent of a deleted element, only that it is still there is asked. -/
theorem delete_eq_ok_iff {held : List ElementId} :
    h.delete held id = .ok h' ↔
      h.checkEditable id = .ok () ∧
        ∃ parent, h.parent? held id = some parent ∧ h' = h.detached parent id := by
  unfold delete
  cases h.checkEditable id with
  | error e => simp [bind, Except.bind]
  | ok _ =>
    cases h.parent? held id with
    | none => simp [bind, Except.bind]
    | some parent => simp [bind, Except.bind, pure, Except.pure, detached, eq_comm]

/-- An element without anything below it, as it is added below another. -/
def seedling (parent : ElementId) (tag : String) (v : Value) : Element :=
  { type := tag, name := none, classes := [], value := v, parent := some parent, children := [],
    modified := true, deleted := false, readOnly := false }

/-- An element is added below one that is editable, if its kind is known. -/
theorem add_eq_ok_iff {tag : String} {child : ElementId} :
    h.add id tag = .ok (child, h') ↔
      h.checkEditable id = .ok () ∧ child = h.elements.size ∧
        ∃ v, Table.get? h.kinds tag = some v ∧
          h' = (h.push (seedling id tag v)).2.update id
            fun e => { e with children := e.children ++ [child], modified := true } := by
  unfold add Kinds.initial
  cases h.checkEditable id with
  | error e => simp [bind, Except.bind]
  | ok _ =>
    cases Table.get? h.kinds tag with
    | none => simp [bind, Except.bind]
    | some v =>
      simp only [bind, Except.bind, pure, Except.pure, push, seedling]
      constructor
      · rintro h
        cases h
        exact ⟨trivial, rfl, v, rfl, rfl⟩
      · rintro ⟨_, rfl, w, hw, rfl⟩
        cases hw
        rfl

end

/-! ## Additions by selectors -/

/-- What every addition preserves is preserved by the additions of a selector, whether it
yields elements or fails on the way. -/
theorem select_invariant {J : Host → Prop}
    (hadd : ∀ {h h' : Host} {id child : ElementId} {tag : String},
      h.add id tag = .ok (child, h') → J h → J h')
    (rulesets : Table Selector) (limit : Nat) (s : Selector) (scope : ElementId) {h : Host}
    (hh : J h) : J (s.select rulesets limit scope h).2 := by
  -- One addition after the other, up to the first that fails.
  have heach : ∀ (tag : String) (ids : List ElementId) {h : Host}, J h →
      J (Selector.addToEach tag ids h).2 := by
    intro tag ids
    induction ids with
    | nil => exact fun hh => hh
    | cons id rest ih =>
      intro h hh
      simp only [Selector.addToEach]
      cases hr : h.add id tag with
      | error e => exact hh
      | ok result => exact ih (hadd hr hh)
  unfold Selector.select
  split
  · exact heach _ _ hh
  · -- Below matches, nothing is added before the matches are known.
    split
    · exact heach _ _ hh
    · exact hh
  · exact hh

end Graft.Host
