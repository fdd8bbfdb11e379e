import Graft.Proofs.Selector.Outcome

/-!
What a selector enumerates.

The enumeration walks down a snapshot and keeps the elements that the selector matches, in
the order of the walk and each at most once. A selector of plain tests, without additions,
references to rulesets and invalid nodes, always has an answer.
-/

set_option autoImplicit false

namespace Graft.Selector

/-- A selector without additions, rulesets and invalid nodes. -/
def Plain : Selector → Prop
  | ofType _ _ => True
  | withName _ _ => True
  | withClass _ _ => True
  | ruleset _ _ => False
  | wildcard _ => True
  | withoutClass _ _ => True
  | withoutName _ _ => True
  | child _ above below => above.Plain ∧ below.Plain
  | intersection _ left right => left.Plain ∧ right.Plain
  | combination _ left right => left.Plain ∧ right.Plain
  | addition _ _ => False
  | invalid _ _ => False

/-! ## Plain selectors have answers -/

/-- That there is an answer is carried through a selection. -/
def answering : Congruence where
  Holds r _ := ∃ a, r = .ok a
  ok a := ⟨a, rfl⟩
  bind h hf := by
    obtain ⟨a, rfl⟩ := h
    exact hf a

/-- A plain selector asks nothing of rulesets and has no invalid nodes. -/
theorem Plain.allows {C : Congruence} (resolve resolve' : String → Test) :
    ∀ {s : Selector}, s.Plain → C.Allows resolve resolve' s
  | ofType _ _, _ | withName _ _, _ | withClass _ _, _ | wildcard _, _ | withoutClass _ _, _
  | withoutName _ _, _ => trivial
  | child _ _ _, h | intersection _ _ _, h | combination _ _ _, h =>
    ⟨h.1.allows resolve resolve', h.2.allows resolve resolve'⟩

theorem Plain.enumerate {s : Selector} (hs : s.Plain) (rulesets : Table Selector) (limit : Nat)
    (tree : Snapshot) : ∃ ids, s.enumerate rulesets limit tree = .ok ids := by
  obtain ⟨id, e, children⟩ := tree
  have htest : answering.Between (isMatch rulesets limit s) (isMatch rulesets limit s) :=
    (hs.allows _ _).matchesWith
  exact htest.filterTrees children [e]

theorem Plain.checkNoAddition : ∀ {s : Selector}, s.Plain → s.checkNoAddition = .ok ()
  | ofType _ _, _ => rfl
  | withName _ _, _ => rfl
  | withClass _ _, _ => rfl
  | wildcard _, _ => rfl
  | withoutClass _ _, _ => rfl
  | withoutName _ _, _ => rfl
  | child _ outer inner, h => by
    simp only [Selector.checkNoAddition, h.1.checkNoAddition, h.2.checkNoAddition]
    rfl
  | intersection _ left right, h => by
    simp only [Selector.checkNoAddition, h.1.checkNoAddition, h.2.checkNoAddition]
    rfl
  | combination _ left right, h => by
    simp only [Selector.checkNoAddition, h.1.checkNoAddition, h.2.checkNoAddition]
    rfl

/-- A plain selector selects what it enumerates, and leaves the host as it is. -/
theorem Plain.select {s : Selector} (hs : s.Plain) (rulesets : Table Selector) (limit : Nat)
    (scope : ElementId) (h : Host) :
    s.select rulesets limit scope h = (s.enumerate rulesets limit (h.snapshot scope), h) := by
  have hcheck := hs.checkNoAddition
  unfold Selector.select
  split
  · exact hs.elim
  · exact hs.2.elim
  · rw [hcheck]
    rfl

/-! ## The order of the enumeration -/

mutual

theorem filterTree_sublist {test : Test} : ∀ (tree : Snapshot) (above : List Element)
    {ids : List ElementId}, filterTree test above tree = .ok ids → ids.Sublist tree.ids
  | .node id e children, above, ids, h => by
    simp only [filterTree, bind, Except.bind] at h
    split at h
    · cases h
    · rename_i hit _
      split at h
      · cases h
      · rename_i below hbelow
        have ih := filterTrees_sublist children (e :: above) hbelow
        -- The element itself comes first, if it is kept.
        cases h
        simp only [Snapshot.ids]
        split
        · exact ih.cons_cons id
        · exact ih.cons id

theorem filterTrees_sublist {test : Test} : ∀ (trees : List Snapshot) (above : List Element)
    {ids : List ElementId}, filterTrees test above trees = .ok ids →
    ids.Sublist (Snapshot.idsOf trees)
  | [], _, _, h => by
    cases h
    exact List.Sublist.refl _
  | tree :: rest, above, ids, h => by
    simp only [filterTrees, bind, Except.bind] at h
    split at h
    · cases h
    · rename_i first hfirst
      split at h
      · cases h
      · rename_i others hothers
        have ih := filterTree_sublist tree above hfirst
        have ih' := filterTrees_sublist rest above hothers
        cases h
        exact ih.append ih'

end

/-- What is enumerated stands in the order of the snapshot, strictly below its topmost
element. -/
theorem enumerate_sublist {s : Selector} {rulesets : Table Selector} {limit : Nat}
    {tree : Snapshot} {ids : List ElementId} (h : s.enumerate rulesets limit tree = .ok ids) :
    ids.Sublist (Snapshot.idsOf tree.children) := by
  obtain ⟨id, e, children⟩ := tree
  exact filterTrees_sublist children [e] h

end Graft.Selector
