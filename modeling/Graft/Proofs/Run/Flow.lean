import Graft.Proofs.Patch.Placement
import Graft.Proofs.Run.Change

/-!
Which statements end in a return.

Only return statements do, and what holds them among the statements of its own body: the
branches of a conditional and the body of a loop. Calls, inclusions and imports end the
returns of what they run, and so do selections. In drafts, return statements are statements
of functions, so neither a document nor the body of a selection or a mixin ever returns.
-/

set_option autoImplicit false

namespace Graft

/-! ## Statements that may return -/

mutual

/-- Whether running a statement may end in a return. -/
def Statement.mayReturn : Statement → Bool
  | .ret _ _ => true
  | .conditional _ branches => branches.mayReturn
  | .forRange _ _ _ _ _ body => Statement.mayReturnIn body
  | .forEach _ _ _ _ body => Statement.mayReturnIn body
  | .whileTrue _ _ body => Statement.mayReturnIn body
  | _ => false

/-- Whether running statements in turn may end in a return. -/
def Statement.mayReturnIn : List Statement → Bool
  | [] => false
  | s :: rest => s.mayReturn || Statement.mayReturnIn rest

/-- Whether running branches may end in a return. -/
def Branches.mayReturn : Branches → Bool
  | .nothing => false
  | .otherwise body => Statement.mayReturnIn body
  | .when _ _ body rest => Statement.mayReturnIn body || rest.mayReturn

end

mutual

/-- Outside functions no statement returns: branches and loops keep the level, and what begins a
level of its own ends the returns there. -/
theorem Statement.mayReturn_of_placed {l : Level} (hl : l ≠ .function) : ∀ s : Statement,
    s.Placed l → s.mayReturn = false
  | .ret _ _, h => by
    cases l with
    | top | block => cases h.1
    | function => exact absurd rfl hl
  | .conditional _ branches, h => branches.mayReturn_of_placed hl h.2
  | .forRange _ _ _ _ _ body, h => Statement.mayReturnIn_of_placedIn hl body h.2.2.2
  | .forEach _ _ _ _ body, h | .whileTrue _ _ body, h =>
    Statement.mayReturnIn_of_placedIn hl body h.2.2
  | .declare _ _ _, _ | .set _ _, _ | .delete _, _ | .merge _ _, _ | .field _ _ _ _, _
  | .includeMixin _ _ _, _ | .selection _ _ _ _, _ | .expression _ _, _ | .importLibrary _ _, _
  | .stage _ _ _, _ | .function _ _ _ _, _ | .mixin _ _ _ _, _ | .error _ _, _ => rfl

theorem Statement.mayReturnIn_of_placedIn {l : Level} (hl : l ≠ .function) :
    ∀ body : List Statement, Statement.PlacedIn l body → Statement.mayReturnIn body = false
  | [], _ => rfl
  | s :: rest, h =>
    Bool.or_eq_false_iff.mpr
      ⟨s.mayReturn_of_placed hl h.1, Statement.mayReturnIn_of_placedIn hl rest h.2⟩

theorem Branches.mayReturn_of_placed {l : Level} (hl : l ≠ .function) : ∀ branches : Branches,
    branches.Placed l → branches.mayReturn = false
  | .nothing, _ => rfl
  | .otherwise body, h => Statement.mayReturnIn_of_placedIn hl body h
  | .when _ _ body rest, h =>
    Bool.or_eq_false_iff.mpr
      ⟨Statement.mayReturnIn_of_placedIn hl body h.2.1, rest.mayReturn_of_placed hl h.2.2⟩

end

namespace Draft

/-- The body of a selection or a mixin that was read from a draft never returns. -/
theorem mayReturnIn_readBlock (body : List BlockStatement) :
    Statement.mayReturnIn (readBlock body) = false :=
  Statement.mayReturnIn_of_placedIn (l := .block) (by decide) _ (placedIn_readBlock body)

/-- A document that was read from a draft never returns. -/
theorem mayReturnIn_readTop (body : List TopStatement) :
    Statement.mayReturnIn (readTop body) = false :=
  Statement.mayReturnIn_of_placedIn (l := .top) (by decide) _ (placedIn_readTop body)

end Draft

/-! ## Runs that do not return -/

/-- If a computation has an answer, `Q` holds of it. -/
def Run.Answers {α : Type} (x : Run α) (Q : α → Prop) : Prop :=
  ∀ (m : Machine) (a : α) (m' : Machine), x m = .ok a m' → Q a

/-- A computation does not end in a return. -/
abbrev Run.GoesOn (x : Run Flow) : Prop :=
  x.Answers (· = .next)

namespace Run.Answers

variable {α β : Type} {Q : β → Prop}

theorem pure {b : β} (h : Q b) : Answers (pure b) Q := by
  intro m b' m' hb
  cases hb
  exact h

theorem halting (loc : Coordinate) (cause : Cause) : Answers (Run.fail loc cause : Run β) Q := by
  intro m b m' hb
  cases hb

/-- Behind a first computation, whose answers satisfy `P`. -/
theorem bind {P : α → Prop} {x : Run α} {f : α → Run β} (hx : x.Answers P)
    (hf : ∀ a, P a → (f a).Answers Q) : (x >>= f).Answers Q := by
  intro m b m' hb
  cases hr : x m with
  | error e m'' =>
    rw [Run.bind_error hr] at hb
    cases hb
  | ok a m'' =>
    rw [Run.bind_ok hr] at hb
    exact hf a (hx m a m'' hr) m'' b m' hb

/-- Behind a first computation, whatever it answers. -/
theorem behind {x : Run α} {f : α → Run β} (hf : ∀ a, (f a).Answers Q) : (x >>= f).Answers Q :=
  bind (P := fun _ => True) (fun _ _ _ _ => trivial) fun a _ => hf a

end Run.Answers

namespace Run.GoesOn

open Run.Answers

/-- A loop goes on if its body does. The induction is on the numbers that are left, the budget
being any. -/
theorem forRange (loc : Coordinate) (limit : Nat) {body : Int64 → Run Flow}
    (hbody : ∀ n, (body n).GoesOn) : ∀ (count : Nat) (first : Int) (budget : Nat),
    (Run.forRange loc limit body first count budget).GoesOn
  | 0, _, _ => pure rfl
  | _ + 1, _, 0 => halting _ _
  | count + 1, first, budget + 1 => (hbody _).bind fun flow hflow => by
    subst hflow
    exact forRange loc limit hbody count (first + 1) budget

theorem forEach (loc : Coordinate) (limit : Nat) {body : Value → Value → Run Flow}
    (hbody : ∀ k v, (body k v).GoesOn) : ∀ (entries : List (Value × Value)) (budget : Nat),
    (Run.forEach loc limit body entries budget).GoesOn
  | [], _ => pure rfl
  | _ :: _, 0 => halting _ _
  | (k, v) :: rest, budget + 1 => (hbody k v).bind fun flow hflow => by
    subst hflow
    exact forEach loc limit hbody rest budget

/-- The induction is on the budget, as the condition may never be false. -/
theorem whileTrue (loc : Coordinate) (limit : Nat) (condition : Run Value) {body : Run Flow}
    (hbody : body.GoesOn) : ∀ budget : Nat,
    (Run.whileTrue loc limit condition body budget).GoesOn
  | 0 => behind fun v => by
    split
    · exact halting _ _
    · exact pure rfl
  | budget + 1 => behind fun v => by
    split
    · refine hbody.bind fun flow hflow => ?_
      subst hflow
      exact whileTrue loc limit condition hbody budget
    · exact pure rfl

section

variable {p : Provision} {enter : Enter}

mutual

/-- A statement that may not return goes on, if it does not halt. What it calls, includes or
imports may return, but the answer of that is not looked at. -/
theorem runStatement (env : Environment) (ctx : Context) : ∀ s : Statement, s.mayReturn = false →
    (Run.runStatement p enter env ctx s).GoesOn
  | .declare _ _ _, _ => behind fun _ => behind fun _ => pure rfl
  | .conditional _ branches, h => runBranches env ctx branches h
  | .ret _ _, h => by cases h
  | .forRange loc name first last end_ body, h =>
    behind fun _ => behind fun _ => behind fun _ => behind fun _ =>
      forRange loc _ (fun _ => behind fun scope => behind fun _ => runBlock scope ctx body h) _ _ _
  | .forEach loc key name iterable body, h => behind fun v => by
    cases Run.entriesOf? v with
    | none => exact halting _ _
    | some entries =>
      refine forEach loc _ (fun k v => behind fun scope => ?_) entries _
      cases key with
      | none => exact behind fun _ => runBlock scope ctx body h
      | some key => exact behind fun _ => behind fun _ => runBlock scope ctx body h
  | .whileTrue loc condition body, h => whileTrue loc _ _ (runBlock env ctx body h) _
  | .set _ _, _ => behind fun _ => behind fun _ => pure rfl
  | .delete _, _ => behind fun _ => pure rfl
  | .merge _ _, _ => behind fun _ => behind fun _ => pure rfl
  | .field _ _ _ _, _ => behind fun _ => behind fun _ => behind fun _ => pure rfl
  -- The answer of a mixin or a library is not looked at.
  | .includeMixin _ name _, _ => behind fun m => by
    cases (Table.get? m.mixins name).or (p.registry.mixin? name) with
    | none => exact halting _ _
    | some mixin => exact behind fun _ => behind fun _ => pure rfl
  | .selection _ _ _ _, _ => behind fun _ => pure rfl
  | .expression _ _, _ => behind fun _ => pure rfl
  | .importLibrary _ name, _ => by
    simp only [Run.runStatement]
    cases p.registry.library? name with
    | none => exact halting _ _
    | some library => exact behind fun _ => pure rfl
  | .stage _ _ _, _ => behind fun _ => pure rfl
  | .function _ none _ _, _ => halting _ _
  | .function _ (some _) _ _, _ => behind fun _ => pure rfl
  | .mixin _ _ _ _, _ => behind fun _ => pure rfl
  | .error _ _, _ => halting _ _

/-- **No return.** Statements that may not return are run to their end, unless one of them
halts. -/
theorem runBlock (env : Environment) (ctx : Context) : ∀ body : List Statement,
    Statement.mayReturnIn body = false → (Run.runBlock p enter env ctx body).GoesOn
  | [], _ => pure rfl
  | s :: rest, h =>
    have h' := Bool.or_eq_false_iff.mp h
    (runStatement env ctx s h'.1).bind fun flow hflow => by
      subst hflow
      exact runBlock env ctx rest h'.2

theorem runBranches (env : Environment) (ctx : Context) : ∀ branches : Branches,
    branches.mayReturn = false → (Run.runBranches p enter env ctx branches).GoesOn
  | .nothing, _ => pure rfl
  | .otherwise body, h => behind fun scope => runBlock scope ctx body h
  | .when _ condition body rest, h =>
    have h' := Bool.or_eq_false_iff.mp h
    behind fun v => by
      split
      · exact behind fun scope => runBlock scope ctx body h'.1
      · exact runBranches env ctx rest h'.2
      · exact halting _ _

end

end

end Run.GoesOn

end Graft
