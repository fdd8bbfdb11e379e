import Mathlib.Tactic.Common

/-!
Computations that write in place.

A change to a store can be computed, with an answer and a new store or with an error. It can also be
carried out on a store that stays, where nothing takes back what has been written before an error.
The two agree as long as whatever can fail comes first: then the store that is left is the new one,
or the one that was there.
-/

set_option autoImplicit false

namespace Graft

variable {ε σ α β : Type}

/-- How a computation in place ends that computes this from a store. -/
def settle (s : σ) : Except ε (α × σ) → EStateM.Result ε σ α
  | .ok (a, s') => .ok a s'
  | .error e => .error e s

/-- The same of a change without an answer. -/
def settleUnit (s : σ) (result : Except ε σ) : EStateM.Result ε σ Unit :=
  settle s (Prod.mk () <$> result)

section

variable {s s' : σ}

/-- What ends in an error is the store as it was. -/
theorem settle_eq_error_iff {result : Except ε (α × σ)} {e : ε} :
    settle s result = .error e s' ↔ result = .error e ∧ s' = s := by
  cases result with
  | ok answer => exact iff_of_false nofun nofun
  | error e' =>
    simp only [settle, EStateM.Result.error.injEq, Except.error.injEq]
    exact and_congr_right fun _ => eq_comm

theorem settle_eq_ok_iff {result : Except ε (α × σ)} {a : α} :
    settle s result = .ok a s' ↔ result = .ok (a, s') := by
  cases result with
  | ok answer => simp only [settle, EStateM.Result.ok.injEq, Except.ok.injEq, Prod.ext_iff]
  | error e => exact iff_of_false nofun nofun

theorem settleUnit_eq_error_iff {result : Except ε σ} {e : ε} :
    settleUnit s result = .error e s' ↔ result = .error e ∧ s' = s := by
  rw [settleUnit, settle_eq_error_iff]
  cases result with
  | ok answer => exact iff_of_false nofun nofun
  | error e' =>
    show Except.error e' = Except.error e ∧ _ ↔ _
    simp only [Except.error.injEq]

theorem settleUnit_eq_ok_iff {result : Except ε σ} :
    settleUnit s result = .ok () s' ↔ result = .ok s' := by
  rw [settleUnit, settle_eq_ok_iff]
  cases result with
  | ok answer =>
    show Except.ok ((), answer) = Except.ok ((), s') ↔ _
    simp only [Except.ok.injEq, Prod.mk.injEq, true_and]
  | error e => exact iff_of_false nofun nofun

end

/-- A check has an answer or an error, and leaves the store as it is. What goes on behind it ends in
place as it is said to end. -/
theorem bind_check (s : σ) {check : EStateM ε σ α} {answer : Except ε α}
    (hcheck : check s = settle s (answer.map (·, s))) {rest : α → EStateM ε σ β}
    {result : α → Except ε (β × σ)}
    (hrest : ∀ a, answer = .ok a → rest a s = settle s (result a)) :
    (check >>= rest) s = settle s (answer >>= result) := by
  show EStateM.bind check rest s = _
  rw [EStateM.bind, hcheck]
  cases answer with
  | error e => rfl
  | ok a => exact hrest a rfl

end Graft
