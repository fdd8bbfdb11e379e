import Graft.Proofs.Selector.Outcome

/-!
Rulesets that may refer to each other deeper.

The limit on the depth of rulesets decides between an error and going on, and nothing else.
Under a higher limit a selection yields the same elements and leaves the same host, unless
it has failed at the lower one. This is shown for the test of a name, by induction on the
levels that are left, and carried from there to the selection.
-/

set_option autoImplicit false

namespace Graft

/-- The error of a ruleset that expands too deeply. -/
def SelectorError.IsDepth : SelectorError → Prop
  | rulesetDepth _ _ => True
  | _ => False

namespace Selector

/-! ## Outcomes under two limits -/

/-- The second outcome is the first one, unless the first is the error of a ruleset that expands
too deeply. -/
def Deepens {α : Type} (r r' : Except SelectorError α) : Prop :=
  r = r' ∨ ∃ e, r = .error e ∧ e.IsDepth

namespace Deepens

variable {α β : Type} {r r' : Except SelectorError α}

theorem refl (r : Except SelectorError α) : Deepens r r :=
  .inl rfl

/-- The same step behind outcomes under two limits, which may itself depend on the limit. -/
theorem bind {f f' : α → Except SelectorError β} (h : Deepens r r')
    (hf : ∀ a, Deepens (f a) (f' a)) : Deepens (r >>= f) (r' >>= f') := by
  rcases h with rfl | ⟨e, rfl, he⟩
  · cases r with
    | ok a => exact hf a
    | error e => exact .refl _
  · exact .inr ⟨e, rfl, he⟩

end Deepens

/-- Outcomes under two limits are carried through a selection. -/
def deepening : Congruence where
  Holds := Deepens
  ok a := .refl (.ok a)
  bind := .bind

/-! ## Matching -/

section

variable (rulesets : Table Selector) {limit limit' : Nat}

/-- A name of a ruleset tests the same with more levels of rulesets left below it. By induction
on the levels that are left under the lower limit: where there are none, that limit has been
reached. -/
theorem resolveWithin_deepens : ∀ {levels levels' : Nat}, levels ≤ levels' → ∀ name : String,
    deepening.Between (resolveWithin rulesets limit levels name)
      (resolveWithin rulesets limit' levels' name)
  | 0, _, _, name, _, _ => .inr ⟨.rulesetDepth name limit, rfl, trivial⟩
  | levels + 1, levels' + 1, hle, name, above, e => by
    simp only [resolveWithin]
    cases Table.get? rulesets name with
    | none => exact .refl _
    | some s =>
      have hnames := resolveWithin_deepens (Nat.le_of_succ_le_succ hle)
      exact (deepening.allows_of hnames s (.inr fun _ => .refl _)).matchesWith above e

end

/-! ## Selections -/

section

variable (rulesets : Table Selector) {limit limit' : Nat} (hle : limit ≤ limit')

include hle

/-- What is enumerated behind the check for additions. -/
theorem checked_deepens (s : Selector) (tree : Snapshot) :
    Deepens (do checkNoAddition s; s.enumerate rulesets limit tree)
      (do checkNoAddition s; s.enumerate rulesets limit' tree) := by
  have hmatch : deepening.Between (isMatch rulesets limit s) (isMatch rulesets limit' s) :=
    (deepening.allows_of (resolveWithin_deepens rulesets hle) s
      (.inr fun _ => .refl _)).matchesWith
  exact deepening.checked (.refl _) hmatch tree

/-- **A higher limit on the depth of rulesets.** A selection yields the same elements and leaves
the same host under it, unless a ruleset has expanded too deeply under the lower one. -/
theorem select_of_le (s : Selector) (scope : ElementId) (h : Host) :
    s.select rulesets limit scope h = s.select rulesets limit' scope h ∨
      ∃ e host, s.select rulesets limit scope h = (.error e, host) ∧ e.IsDepth := by
  unfold select
  split
  · exact .inl rfl
  · rename_i outer _ _
    rcases checked_deepens rulesets hle outer (h.snapshot scope) with hsame | ⟨e, herror, he⟩
    · rw [hsame]
      exact .inl rfl
    · rw [herror]
      exact .inr ⟨e, h, rfl, he⟩
  · exact (checked_deepens rulesets hle _ (h.snapshot scope)).imp
      (fun hsame => congrArg (·, h) hsame)
      fun ⟨e, herror, he⟩ => ⟨e, h, congrArg (·, h) herror, he⟩

end

end Selector

end Graft
