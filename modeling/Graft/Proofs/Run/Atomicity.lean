import Graft.Proofs.Run.Purity

/-!
Edit statements that fail.

An edit statement evaluates its operand, looks for the element that it is meant for, works out
what to write, and puts one edit to the host. Only the last of these changes anything that lasts,
and if it fails, it has changed nothing. So whatever makes an edit statement fail, all that it
leaves behind are the frames that were opened while its operand was evaluated.
-/

set_option autoImplicit false

namespace Graft

/-- The operand of an edit statement. -/
def Statement.operand? : Statement → Option Expr
  | .set _ e => some e
  | .merge _ e => some e
  | .field _ _ _ e => some e
  | _ => none

/-- The operand of an edit statement that was read from a draft was read from it as well. -/
theorem Draft.BlockStatement.operand_read {b : Draft.BlockStatement} {e : Graft.Expr}
    (he : b.read.operand? = some e) : ∃ d : Draft.Expr, e = d.read := by
  cases b with
  | set _ d | merge _ d | field _ _ _ d => exact ⟨d, (Option.some.inj he).symm⟩
  | _ => cases he

namespace Machine

theorem Extends.refl (m : Machine) : m.Extends m where
  host := rfl
  report := rfl
  functions := rfl
  mixins := rfl
  callDepth := rfl
  size := Nat.le_refl _
  bindings _ _ := rfl

/-- An expression whose closures hold statements of functions only opens frames and does nothing
else, where all functions are such. -/
theorem FunctionsOnly.extends_evaluate {p : Provision} (hp : p.registry.FromDrafts) {m : Machine}
    (hm : m.FunctionsOnly) (levels : Nat) (env : Environment) (ctx : Context) {e : Expr}
    (he : e.Every fun s => s.isFunctionLevel = true) :
    m.Extends ((Run.evaluate p (Run.enterWithin p levels) env ctx e).after m) := by
  have hmakes := Makes.evaluate (Run.enterWithin_keeps (.evaluation p hp m.frames.size) levels) env
    ctx.admitted_evaluation e he
  exact (hmakes m hm.sound).1.extends rfl

end Machine

namespace Run

section

variable {α β : Type} {ctx : Context} {m m' : Machine} {halt : Halt}

/-! ## Computations that fail without a trace -/

/-- A computation that halts leaves the machine as it was. -/
def Atomic (x : Run α) : Prop :=
  ∀ (m m' : Machine) (halt : Halt), x m = .error halt m' → m' = m

namespace Atomic

theorem fail (loc : Coordinate) (cause : Cause) : Atomic (fail loc cause : Run α) := by
  intro m m' halt h
  unfold Run.fail at h
  cases h
  rfl

theorem ofExcept {ε : Type} (loc : Coordinate) (cause : ε → Cause) (r : Except ε α) :
    Atomic (ofExcept loc cause r) := by
  cases r with
  | ok a =>
    intro m m' halt h
    cases h
  | error e => exact fail loc (cause e)

/-- The host is asked first, and what it refuses is not done. -/
theorem edit (loc : Coordinate) (change : Host → Except HostError Host) :
    Atomic (edit loc change) := by
  intro m m' halt h
  cases hc : change m.host with
  | ok host =>
    rw [edit_ok loc change hc] at h
    cases h
  | error e =>
    rw [edit_error loc change hc] at h
    cases h
    rfl

/-- What goes on behind an answer, with the machine as it was, has to be atomic as well. -/
theorem bind {x : Run α} {f : α → Run β} (hx : Atomic x)
    (hsame : ∀ {a : α} {m m' : Machine}, x m = .ok a m' → m' = m) (hf : ∀ a, Atomic (f a)) :
    Atomic (x >>= f) := by
  intro m m' halt h
  cases hr : x m with
  | ok a m₁ =>
    rw [bind_ok hr] at h
    rw [hf a m₁ m' halt h, hsame hr]
  | error e m₁ =>
    rw [bind_error hr] at h
    cases h
    exact hx m m' halt hr

/-- Nothing fails behind the last step. -/
theorem bind_pure {x : Run α} (hx : Atomic x) (b : β) : Atomic (x >>= fun _ => pure b) := by
  intro m m' halt h
  cases hr : x m with
  | ok a m₁ =>
    rw [bind_ok hr] at h
    cases h
  | error e m₁ =>
    rw [bind_error hr] at h
    cases h
    exact hx m m' halt hr

/-- To look for the element that an edit is meant for changes nothing. -/
theorem atTarget (loc : Coordinate) (site : EditSite) {f : ElementId → Run β}
    (hf : ∀ id, Atomic (f id)) : Atomic (target ctx loc site >>= f) := by
  by_cases hselected : ctx.selected = true
  · rw [target, if_pos hselected, pure_bind]
    exact hf ctx.element
  · rw [target, if_neg hselected]
    refine bind (fail loc _) (fun hr => ?_) hf
    cases hr

end Atomic

/-! ## Edit statements -/

/-- The value is written to a copy, so a path that leads nowhere changes nothing. -/
theorem atomic_writeInto (fields : FieldConventions) (loc : Coordinate) (path : List Segment)
    (v : Value) (id : ElementId) : Atomic (writeInto fields loc path v id) := by
  intro m m' halt h
  unfold writeInto at h
  exact Atomic.bind (.ofExcept loc .path _) (fun hr => (ofExcept_eq_ok hr).2.symm)
    (fun changed => .edit loc fun h => h.set id changed) m m' halt h

/-- What follows an operand is atomic, so a halt leaves what the operand has left. -/
theorem after_operand {x : Run α} {f : α → Run β} (hf : ∀ a, Atomic (f a))
    (h : (x >>= f) m = .error halt m') : m' = x.after m := by
  cases hr : x m with
  | ok a m₁ =>
    rw [bind_ok hr] at h
    rw [after_ok hr]
    exact hf a m₁ m' halt h
  | error e m₁ =>
    rw [bind_error hr] at h
    cases h
    rw [after_error hr]

/-- **Where an edit statement halts.** It leaves the machine as it was, or as it is behind the
operand. -/
theorem halted_edit {p : Provision} {enter : Enter} {env : Environment} {s : Statement}
    (hs : s.isEdit = true) (h : runStatement p enter env ctx s m = .error halt m') :
    m' = m ∨ ∃ e, s.operand? = some e ∧ m' = (evaluate p enter env ctx e).after m := by
  cases s with
  | set loc e =>
    rw [runStatement] at h
    refine .inr ⟨e, rfl, after_operand (fun v => ?_) h⟩
    exact .bind_pure (.atTarget loc _ fun id => .edit loc _) _
  | delete loc =>
    rw [runStatement] at h
    have hatomic : Atomic (deleteElement ctx loc) := .atTarget loc _ fun id => .edit loc _
    exact .inl (hatomic.bind_pure _ m m' halt h)
  | merge loc e =>
    rw [runStatement] at h
    refine .inr ⟨e, rfl, after_operand (fun v => ?_) h⟩
    exact .bind_pure (.atTarget loc _ fun id => .edit loc _) _
  | field loc key indexer e =>
    rw [runStatement] at h
    cases hpath : fieldPath key indexer with
    | error cause =>
      -- A path that cannot be told fails before the operand is evaluated.
      have hstop : (ofExcept loc id (.error cause) : Run (List Segment)) m = fail loc cause m := rfl
      unfold fail at hstop
      rw [hpath, bind_error hstop] at h
      cases h
      exact .inl rfl
    | ok path =>
      rw [hpath] at h
      refine .inr ⟨e, rfl, after_operand (fun v => ?_) h⟩
      rw [writeField_eq]
      exact .bind_pure (.atTarget loc _ fun id => atomic_writeInto _ loc path v id) _
  | _ => cases hs

/-- **A failing edit statement is atomic.** At whatever machine an execution arrives, in any
environment and context: if an edit statement that was read from a draft fails, with its operand,
for want of a selected element, with its path or as the host refuses the edit, then the tree, the
report, the routines, the depth of calls and all frames that were there are as before. -/
theorem runStatement_failed_extends {p : Provision} (hp : p.registry.FromDrafts)
    (hm : Reachable p m) (levels : Nat) (env : Environment) {b : Draft.BlockStatement}
    (hb : b.read.isEdit = true)
    (hfailed : runStatement p (enterWithin p levels) env ctx b.read m = .error halt m') :
    m.Extends m' := by
  rcases halted_edit hb hfailed with rfl | ⟨e, he, rfl⟩
  · exact .refl _
  · obtain ⟨d, rfl⟩ := b.operand_read he
    exact (hm.functionsOnly hp).extends_evaluate hp levels env ctx (d.every_read fun _ h => h)

end

/-- The call `keep(true)` opens a frame before its value comes to a protected element, and this
frame is all that is left of the statement. -/
theorem runStatement_failed_extends_keep :
    let p : Provision := ⟨.keeping, .standard⟩
    let inner : Description := .mk "a" none [] .null [] true
    let start := Machine.start (.ofDescription [] (.mk "doc" none [] .null [inner] false))
    let call := Draft.Expr.call .origin "keep" [.mk .origin none (.boolean .origin true)]
    let b := Draft.BlockStatement.field .origin "x" none call
    ∃ m', runStatement p (enterWithin p 2) start.1 ⟨1, true, [1, 0]⟩ b.read start.2 =
        .error (.failed ⟨.origin, .host (.readOnly "a")⟩) m' ∧
      m'.frames.size = start.2.frames.size + 1 ∧ start.2.Extends m' := by
  intro p inner start call b
  obtain ⟨m', hfailed, hsize⟩ : ∃ m',
      runStatement p (enterWithin p 2) start.1 ⟨1, true, [1, 0]⟩ b.read start.2 =
        .error (.failed ⟨.origin, .host (.readOnly "a")⟩) m' ∧
      m'.frames.size = start.2.frames.size + 1 := ⟨_, rfl, rfl⟩
  exact ⟨m', hfailed, hsize,
    runStatement_failed_extends Registry.fromDrafts_keeping (Reachable.start _ _) 2 _ rfl hfailed⟩

end Run

end Graft
