import Graft.Patch.OfDraft
import Graft.Proofs.Selector.Outcome

/-!
Selectors without invalid nodes.

Selectors that are read from a draft have none. A selection by such a selector can still fail,
at a ruleset, at an addition or at the host, but it does not fail as an invalid one, provided
that the rulesets have no invalid nodes either. This is shown for the test of a name, by
induction on the levels of rulesets that are left, and carried from there to the selection.
-/

set_option autoImplicit false

namespace Graft.Selector

/-- What is read from a draft has no invalid nodes. -/
theorem valid_read : ∀ s : Draft.Selector, s.read.Valid
  | .ofType _ _ | .withName _ _ | .withClass _ _ | .ruleset _ _ | .wildcard _ | .withoutClass _ _
  | .withoutName _ _ | .addition _ _ => trivial
  | .child _ above below => ⟨valid_read above, valid_read below⟩
  | .intersection _ left right => ⟨valid_read left, valid_read right⟩
  | .combination _ left right => ⟨valid_read left, valid_read right⟩

/-! ## Outcomes -/

/-- An outcome is not the error of an invalid selector. -/
def NotInvalid {α : Type} (r : Except SelectorError α) : Prop :=
  ∀ text, r ≠ .error (.invalid text)

namespace NotInvalid

variable {α β : Type} {r : Except SelectorError α}

theorem ok (a : α) : NotInvalid (.ok a) :=
  nofun

theorem bind {f : α → Except SelectorError β} (h : NotInvalid r) (hf : ∀ a, NotInvalid (f a)) :
    NotInvalid (r >>= f) := by
  cases r with
  | ok a => exact hf a
  | error e =>
    intro text he
    cases he
    exact h text rfl

theorem map (f : α → β) (h : NotInvalid r) : NotInvalid (r.map f) := by
  cases r with
  | ok a => exact ok (f a)
  | error e =>
    intro text he
    cases he
    exact h text rfl

end NotInvalid

/-- That an outcome is not such an error is carried through a selection, whatever it is compared
with. -/
def avoidance : Congruence where
  Holds r _ := NotInvalid r
  ok := .ok
  bind := .bind

/-! ## Matching -/

/-- Names of rulesets are tested by induction on the levels of rulesets that are left. -/
theorem resolveWithin_notInvalid {rulesets : Table Selector}
    (hrulesets : ∀ name s, Table.get? rulesets name = some s → s.Valid) (limit : Nat) :
    ∀ (levels : Nat) (name : String),
    avoidance.Between (resolveWithin rulesets limit levels name)
      (resolveWithin rulesets limit levels name)
  | 0, _, _, _ => nofun
  | levels + 1, name, above, e => by
    simp only [resolveWithin]
    cases hs : Table.get? rulesets name with
    | none => exact nofun
    | some s =>
      have hnames := resolveWithin_notInvalid hrulesets limit levels
      exact (avoidance.allows_of hnames s (.inl (hrulesets name s hs))).matchesWith above e

/-! ## Selections -/

theorem checkNoAddition_notInvalid : ∀ s : Selector, NotInvalid (checkNoAddition s)
  | .ofType _ _ | .withName _ _ | .withClass _ _ | .ruleset _ _ | .wildcard _ | .withoutClass _ _
  | .withoutName _ _ | .invalid _ _ => .ok _
  | .addition _ _ => nofun
  | .child _ left right | .intersection _ left right | .combination _ left right =>
    (checkNoAddition_notInvalid left).bind fun _ => checkNoAddition_notInvalid right

theorem addToEach_notInvalid (type : String) : ∀ (ids : List ElementId) (h : Host),
    NotInvalid (addToEach type ids h).1
  | [], _ => .ok _
  | id :: rest, h => by
    unfold addToEach
    split
    · exact nofun
    · rename_i newId h' _
      have hrest := addToEach_notInvalid type rest h'
      rcases hadded : addToEach type rest h' with ⟨added, h''⟩
      rw [hadded] at hrest
      exact hrest.map _

section

variable {rulesets : Table Selector}
  (hrulesets : ∀ name s, Table.get? rulesets name = some s → s.Valid)

include hrulesets

/-- What is enumerated behind the check for additions. -/
theorem Valid.checked {s : Selector} (hs : s.Valid) (limit : Nat) (tree : Snapshot) :
    NotInvalid (do checkNoAddition s; s.enumerate rulesets limit tree) := by
  have hmatch : avoidance.Between (isMatch rulesets limit s) (isMatch rulesets limit s) :=
    (avoidance.allows_of (resolveWithin_notInvalid hrulesets limit limit) s
      (.inl hs)).matchesWith
  exact avoidance.checked (checkNoAddition_notInvalid s) hmatch tree

/-- **Selections by selectors without invalid nodes** do not fail as those of invalid ones. -/
theorem Valid.select {s : Selector} (hs : s.Valid) (limit : Nat) (scope : ElementId) (h : Host) :
    NotInvalid (s.select rulesets limit scope h).1 := by
  unfold Selector.select
  split
  · exact addToEach_notInvalid _ _ h
  · rename_i outer _ _
    have hids := Valid.checked hrulesets hs.1 limit (h.snapshot scope)
    split
    · exact addToEach_notInvalid _ _ h
    · rename_i e he
      rw [he] at hids
      exact fun text ht => hids text (congrArg _ (Except.error.inj ht))
  · exact Valid.checked hrulesets hs limit (h.snapshot scope)

end

end Graft.Selector
