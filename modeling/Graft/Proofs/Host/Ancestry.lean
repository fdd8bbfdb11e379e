import Graft.Proofs.Host.Operation

/-!
Which elements are above which, and which of them are left.

An element knows the element it was made under, and nothing ever changes that. The elements
above another are found by going from parent to parent. Whether an element is left is a
question about those above it: somebody has to hold one of them, and none between the two may
have been deleted.

The elements of a host are in order if every parent has a smaller number than its children.
That is so for every host that operations make from the host of a described tree.
-/

set_option autoImplicit false

namespace Graft.Host

/-- `q` is strictly above `id`. -/
inductive Above (h : Host) (q : ElementId) : ElementId → Prop
  | parent {id : ElementId} : (h.get id).parent = some q → Above h q id
  | step {id p : ElementId} : (h.get id).parent = some p → Above h q p → Above h q id

/-- Parents have smaller numbers than their children. -/
def Ordered (h : Host) : Prop :=
  ∀ id p, (h.get id).parent = some p → p < id

/-- `q` keeps `id`: it is strictly above it, and no element between the two is deleted. -/
def Keeps (h : Host) (q id : ElementId) : Prop :=
  h.Above q id ∧ ∀ a, h.Above q a → h.Above a id → (h.get a).deleted = false

section

variable {h : Host} {q p id : ElementId}

theorem Above.lt (hh : h.Ordered) (ha : h.Above q id) : q < id := by
  induction ha with
  | parent hp => exact hh _ _ hp
  | step hp _ ih => exact Nat.lt_trans ih (hh _ _ hp)

/-- What is above an element is its parent or above its parent. -/
theorem above_iff (hp : (h.get id).parent = some p) : h.Above q id ↔ q = p ∨ h.Above q p := by
  constructor
  · intro ha
    cases ha with
    | parent hq =>
      rw [hp] at hq
      exact .inl (Option.some.inj hq).symm
    | step hp' ha =>
      rw [hp] at hp'
      cases hp'
      exact .inr ha
  · rintro (rfl | ha)
    · exact .parent hp
    · exact .step hp ha

theorem not_above_of_parent_none (hp : (h.get id).parent = none) : ¬ h.Above q id := by
  intro ha
  cases ha with
  | parent hq => rw [hp] at hq; cases hq
  | step hp' _ => rw [hp] at hp'; cases hp'

/-- What keeps an element is its parent, or it keeps the parent, which is not deleted. -/
theorem keeps_iff (hh : h.Ordered) (hp : (h.get id).parent = some p) :
    h.Keeps q id ↔ q = p ∨ ((h.get p).deleted = false ∧ h.Keeps q p) := by
  constructor
  · rintro ⟨ha, hbetween⟩
    rcases (above_iff hp).mp ha with rfl | hqp
    · exact .inl rfl
    · refine .inr ⟨hbetween p hqp (.parent hp), hqp, fun a hqa hap => ?_⟩
      exact hbetween a hqa (.step hp hap)
  · rintro (rfl | ⟨hdeleted, hqp, hbetween⟩)
    · refine ⟨.parent hp, fun a hqa haid => ?_⟩
      -- Nothing is between an element and its parent.
      exfalso
      rcases (above_iff hp).mp haid with rfl | hap
      · exact Nat.lt_irrefl _ (hqa.lt hh)
      · exact Nat.lt_asymm (hqa.lt hh) (hap.lt hh)
    · refine ⟨.step hp hqp, fun a hqa haid => ?_⟩
      -- What is between the two is the parent, or above the parent.
      rcases (above_iff hp).mp haid with rfl | hap
      · exact hdeleted
      · exact hbetween a hqa hap

/-- An element is left if it is held, or if it is not deleted and something held keeps it. -/
theorem alive_iff (hh : h.Ordered) (held : List ElementId) (id : ElementId) :
    h.alive held id = true ↔
      id ∈ held ∨ ((h.get id).deleted = false ∧ ∃ q ∈ held, h.Keeps q id) := by
  -- The search goes up as many steps as the number of the element says, which is enough where
  -- parents have smaller numbers. The induction is on these steps.
  have hwithin : ∀ (fuel id : Nat), id ≤ fuel → (h.aliveWithin held fuel id = true ↔
      id ∈ held ∨ ((h.get id).deleted = false ∧ ∃ q ∈ held, h.Keeps q id)) := by
    intro fuel
    induction fuel with
    | zero =>
      intro id hid
      obtain rfl : id = 0 := Nat.le_zero.mp hid
      -- There is nothing above the first element.
      have hnone : ¬ ∃ q ∈ held, h.Keeps q 0 := by
        rintro ⟨q, _, ha, _⟩
        exact Nat.not_lt_zero q (ha.lt hh)
      simp [aliveWithin, hnone]
    | succ fuel ih =>
      intro id hid
      simp only [aliveWithin, Bool.or_eq_true, List.contains_iff_mem]
      refine or_congr Iff.rfl ?_
      cases hp : (h.get id).parent with
      | none =>
        have hnone : ¬ ∃ q ∈ held, h.Keeps q id := by
          rintro ⟨q, _, ha, _⟩
          exact not_above_of_parent_none hp ha
        simp [hnone]
      | some p =>
        have hle : p ≤ fuel := Nat.le_of_lt_succ (Nat.lt_of_lt_of_le (hh id p hp) hid)
        -- The element is left if it is not deleted and its parent is left.
        simp only [Bool.and_eq_true, Bool.not_eq_true', ih p hle, keeps_iff hh hp]
        refine and_congr Iff.rfl ?_
        constructor
        · rintro (hheld | ⟨hdeleted, q, hq, hk⟩)
          · exact ⟨p, hheld, .inl rfl⟩
          · exact ⟨q, hq, .inr ⟨hdeleted, hk⟩⟩
        · rintro ⟨q, hq, rfl | ⟨hdeleted, hk⟩⟩
          · exact .inl hq
          · exact .inr ⟨hdeleted, q, hq, hk⟩
  exact hwithin id id (Nat.le_refl id)

/-- An element has a parent that is left exactly if something held keeps it. -/
theorem parent?_eq_none_iff (hh : h.Ordered) (held : List ElementId) (id : ElementId) :
    h.parent? held id = none ↔ ∀ q ∈ held, ¬ h.Keeps q id := by
  unfold parent?
  cases hp : (h.get id).parent with
  | none =>
    simp only [Option.filter_none, true_iff]
    exact fun q _ hk => not_above_of_parent_none hp hk.1
  | some p =>
    rw [Option.filter_eq_none_iff]
    simp only [Option.some.injEq, forall_eq', alive_iff hh]
    constructor
    · intro hdead q hq hk
      rcases (keeps_iff hh hp).mp hk with rfl | ⟨hdeleted, hk⟩
      · exact hdead (.inl hq)
      · exact hdead (.inr ⟨hdeleted, q, hq, hk⟩)
    · rintro hnone (hheld | ⟨hdeleted, q, hq, hk⟩)
      · exact hnone p hheld ((keeps_iff hh hp).mpr (.inl rfl))
      · exact hnone q hq ((keeps_iff hh hp).mpr (.inr ⟨hdeleted, hk⟩))

/-- **When deletion is refused as that of a root.** It is, for an element that may be edited,
exactly if no element that somebody holds keeps it. -/
theorem delete_eq_rootDeletion_iff (hh : h.Ordered) {held : List ElementId}
    (hid : h.checkEditable id = .ok ()) :
    h.delete held id = .error .rootDeletion ↔ ∀ q ∈ held, ¬ h.Keeps q id := by
  rw [← parent?_eq_none_iff hh held id]
  unfold delete
  rw [hid]
  cases h.parent? held id with
  | none => simp [bind, Except.bind]
  | some p => simp [bind, Except.bind, pure, Except.pure]

end

/-! ## Hosts in order -/

namespace Ordered

variable {h h' : Host}

theorem empty (kinds : Kinds) : (empty kinds).Ordered := by
  intro id p hp
  rw [get_of_size_le (Nat.zero_le id)] at hp
  cases hp

theorem update (hh : h.Ordered) (id : ElementId) {change : Element → Element}
    (hchange : ∀ e : Element, (change e).parent = e.parent) : (h.update id change).Ordered := by
  intro other p hp
  rw [field_update h id other (f := Element.parent) hchange] at hp
  exact hh other p hp

theorem push (hh : h.Ordered) {e : Element}
    (he : ∀ p, e.parent = some p → p < h.elements.size) : (h.push e).2.Ordered := by
  intro other p hp
  rw [get_push] at hp
  split at hp
  · rename_i hother
    rw [hother]
    exact he p hp
  · exact hh other p hp

end Ordered

/-- The hosts that operations on elements make, one after the other. -/
inductive Reached (start : Host) : Host → Prop
  | start : Reached start start
  | set {h h' : Host} {id : ElementId} {v : Value} :
    Reached start h → h.set id v = .ok h' → Reached start h'
  | merge {h h' : Host} {id : ElementId} {v : Value} :
    Reached start h → h.merge id v = .ok h' → Reached start h'
  | delete {h h' : Host} {held : List ElementId} {id : ElementId} :
    Reached start h → h.delete held id = .ok h' → Reached start h'
  | add {h h' : Host} {id child : ElementId} {tag : String} :
    Reached start h → id < h.elements.size → h.add id tag = .ok (child, h') → Reached start h'
  | setReadOnly {h : Host} (id : ElementId) (on : Bool) :
    Reached start h → Reached start (h.setReadOnly id on)

theorem Reached.ordered {start h : Host} (hr : Reached start h) (hstart : start.Ordered) :
    h.Ordered := by
  induction hr with
  | start => exact hstart
  | set _ hset ih =>
    obtain ⟨_, rfl⟩ := set_eq_ok_iff.mp hset
    exact ih.update _ fun _ => rfl
  | merge _ hmerge ih =>
    obtain ⟨_, rfl⟩ := merge_eq_ok_iff.mp hmerge
    exact ih.update _ fun _ => rfl
  | @delete h _ _ id _ hdelete ih =>
    obtain ⟨_, parent, _, rfl⟩ := delete_eq_ok_iff.mp hdelete
    have hparent : (h.update parent fun e =>
        { e with children := e.children.filter (· != id), modified := true }).Ordered :=
      ih.update parent fun _ => rfl
    exact hparent.update _ fun _ => rfl
  -- Only an addition makes an element, and gives it a number beyond all others.
  | @add h _ id _ tag _ hid hadd ih =>
    obtain ⟨_, _, v, _, rfl⟩ := add_eq_ok_iff.mp hadd
    have hpush := ih.push (e := seedling id tag v) fun p hp => by
      cases hp
      exact hid
    exact hpush.update _ fun _ => rfl
  | setReadOnly id on _ ih => exact ih.update id fun _ => rfl

end Graft.Host
