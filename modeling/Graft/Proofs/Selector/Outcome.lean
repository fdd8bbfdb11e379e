import Graft.Selector.Match

/-!
What is carried from the tests of rulesets to whole selections.

Matching, and the walk over a snapshot, put outcomes together in one way: there is an answer at
once, or one outcome goes on behind another. So a relation between outcomes that holds of equal
answers and of what goes on behind related ones needs to be looked at for the tests of rulesets
only, and at invalid nodes if there are any. Matching under two limits is a case of this, and so
is matching that never fails, or never in some way.
-/

set_option autoImplicit false

namespace Graft.Selector

/-- A selector without invalid nodes. -/
def Valid : Selector → Prop
  | child _ above below => above.Valid ∧ below.Valid
  | intersection _ left right => left.Valid ∧ right.Valid
  | combination _ left right => left.Valid ∧ right.Valid
  | invalid _ _ => False
  | _ => True

/-- A relation between outcomes that holds of equal answers and is kept by going on behind them. -/
structure Congruence where
  Holds : ∀ {α : Type}, Except SelectorError α → Except SelectorError α → Prop
  ok : ∀ {α : Type} (a : α), Holds (.ok a) (.ok a)
  bind : ∀ {α β : Type} {r r' : Except SelectorError α} {f f' : α → Except SelectorError β},
    Holds r r' → (∀ a, Holds (f a) (f' a)) → Holds (r >>= f) (r' >>= f')

namespace Congruence

variable {C : Congruence}

theorem ite {α : Type} {c : Bool} {x x' y y' : Except SelectorError α} (hx : C.Holds x x')
    (hy : C.Holds y y') : C.Holds (if c then x else y) (if c then x' else y') := by
  cases c with
  | true => exact hx
  | false => exact hy

/-- Two tests have related outcomes. -/
def Between (C : Congruence) (test test' : Test) : Prop :=
  ∀ above e, C.Holds (test above e) (test' above e)

theorem Between.anyOf {test test' : Test} (h : C.Between test test') :
    ∀ above : List Element, C.Holds (Selector.anyOf test above) (Selector.anyOf test' above)
  | [] => C.ok _
  | e :: above => C.bind (Between.anyOf h above) fun _ => ite (C.ok _) (h above e)

section

variable {resolve resolve' : String → Test}

/-- What is asked of the nodes of a selector: that a name is tested with related outcomes, and that
the error of an invalid node is related to itself. -/
def Allows (C : Congruence) (resolve resolve' : String → Test) : Selector → Prop
  | .ruleset _ name => C.Between (resolve name) (resolve' name)
  | .child _ outer inner => C.Allows resolve resolve' outer ∧ C.Allows resolve resolve' inner
  | .intersection _ left right => C.Allows resolve resolve' left ∧ C.Allows resolve resolve' right
  | .combination _ left right => C.Allows resolve resolve' left ∧ C.Allows resolve resolve' right
  | .invalid _ text =>
    C.Holds (.error (.invalid text) : Except SelectorError Bool) (.error (.invalid text))
  | _ => True

/-- Where all names are tested with related outcomes, invalid nodes are left to be asked for. -/
theorem allows_of (h : ∀ name, C.Between (resolve name) (resolve' name)) :
    ∀ s : Selector, s.Valid ∨ (∀ text : String,
      C.Holds (.error (.invalid text) : Except SelectorError Bool) (.error (.invalid text))) →
    C.Allows resolve resolve' s
  | .ofType _ _, _ | .withName _ _, _ | .withClass _ _, _ | .wildcard _, _ | .withoutClass _ _, _
  | .withoutName _ _, _ | .addition _ _, _ => trivial
  | .ruleset _ name, _ => h name
  | .child _ left right, hs | .intersection _ left right, hs | .combination _ left right, hs =>
    ⟨allows_of h left (hs.imp_left And.left), allows_of h right (hs.imp_left And.right)⟩
  | .invalid _ text, hs => hs.elim False.elim fun hinvalid => hinvalid text

/-- **Matching** has related outcomes if its nodes have. -/
theorem Allows.matchesWith : ∀ {s : Selector}, C.Allows resolve resolve' s →
    C.Between (s.matchesWith resolve) (s.matchesWith resolve')
  | .ofType _ _, _, _, _ | .withName _ _, _, _, _ | .withClass _ _, _, _, _ | .wildcard _, _, _, _
  | .withoutClass _ _, _, _, _ | .withoutName _ _, _, _, _ | .addition _ _, _, _, _ => C.ok _
  | .ruleset _ _, hs, above, e => hs above e
  | .child _ _ _, ⟨houter, hinner⟩, above, e =>
    C.bind (hinner.matchesWith above e) fun _ =>
      ite (houter.matchesWith.anyOf above) (C.ok _)
  | .intersection _ _ _, ⟨hleft, hright⟩, above, e =>
    C.bind (hleft.matchesWith above e) fun _ => ite (hright.matchesWith above e) (C.ok _)
  | .combination _ _ _, ⟨hleft, hright⟩, above, e =>
    C.bind (hleft.matchesWith above e) fun _ => ite (C.ok _) (hright.matchesWith above e)
  | .invalid _ _, hs, _, _ => hs

end

mutual

theorem Between.filterTree {test test' : Test} (h : C.Between test test') :
    ∀ (tree : Snapshot) (above : List Element),
    C.Holds (Selector.filterTree test above tree) (Selector.filterTree test' above tree)
  | .node _ e children, above =>
    C.bind (h above e) fun _ =>
      C.bind (Between.filterTrees h children (e :: above)) fun _ => C.ok _

theorem Between.filterTrees {test test' : Test} (h : C.Between test test') :
    ∀ (trees : List Snapshot) (above : List Element),
    C.Holds (Selector.filterTrees test above trees) (Selector.filterTrees test' above trees)
  | [], _ => C.ok _
  | tree :: rest, above =>
    C.bind (Between.filterTree h tree above) fun _ =>
      C.bind (Between.filterTrees h rest above) fun _ => C.ok _

end

/-- **Enumerating** behind the check for additions has related outcomes if matching has. -/
theorem checked {rulesets : Table Selector} {limit limit' : Nat} {s : Selector}
    (hcheck : C.Holds (checkNoAddition s) (checkNoAddition s))
    (hmatch : C.Between (isMatch rulesets limit s) (isMatch rulesets limit' s))
    (tree : Snapshot) :
    C.Holds (do checkNoAddition s; s.enumerate rulesets limit tree)
      (do checkNoAddition s; s.enumerate rulesets limit' tree) := by
  obtain ⟨id, e, children⟩ := tree
  exact C.bind hcheck fun _ => hmatch.filterTrees children [e]

end Congruence

end Graft.Selector
