import Graft.Proofs.Run.Attachment
import Graft.Proofs.Run.Halting
import Graft.Proofs.Run.Trap

/-!
What comes of a part, and where it comes from.

A part that comes to no answer has either called something that comes to none, or it stops by
itself. By itself it stops with a failure, which has a cause and a place, or at the one operation
that traps, or where no level is left for a call. A failure that is not plain is that of a part
of the patch that could not be read, of a call at the limit or of a selector.

What a part does to the host and to the count of edits is done in the same way by what it calls
or by itself. By itself it does something only if it is a selection that is to run or an edit
statement that has come to an edit.

`Composed` says both of a computation, and its rules follow the way computations are put
together.
-/

set_option autoImplicit false

namespace Graft

open Run

variable {α β : Type} {p : Provision}

/-- A bound that there is is a whole number. -/
theorem Run.bound_eq_ok {loc : Coordinate} {which : String} {v : Value} {n : Int64}
    {m m' : Machine} (h : bound loc which v m = .ok n m') : v = .int n ∧ m = m' := by
  cases v with
  | int x =>
    cases h
    exact ⟨rfl, rfl⟩
  | _ => cases h

/-! ## Where halts come from -/

namespace Moment

/-- At the moment, the quotient of the least whole number by -1 is computed. -/
inductive Traps (p : Provision) : Moment → Prop
  | quotient {l : Nat} {env : Environment} {ctx : Context} {loc : Coordinate} {a b : Expr}
    {m m' m'' : Machine} :
    evaluate p (enterWithin p l) env ctx a m = .ok (.int Int64.minValue) m' →
    evaluate p (enterWithin p l) env ctx b m' = .ok (.int (-1)) m'' →
    Traps p ⟨l, .expr env ctx (.binary loc .divide a b), m⟩

/-- At the moment, a part of the patch is run that could not be read, a function is defined that
has no name, or a selection that is to run goes by an invalid selector. -/
inductive Malformed (p : Provision) : Moment → Prop
  | expr {l : Nat} {env : Environment} {ctx : Context} {loc : Coordinate} {fault : Fault}
    {m : Machine} : Malformed p ⟨l, .expr env ctx (.error loc fault), m⟩
  | statement {l : Nat} {env : Environment} {ctx : Context} {loc : Coordinate} {fault : Fault}
    {m : Machine} : Malformed p ⟨l, .statement env ctx (.error loc fault), m⟩
  | indexer {l : Nat} {env : Environment} {ctx : Context} {loc iloc : Coordinate} {key : String}
    {fault : Fault} {e : Expr} {m : Machine} :
    Malformed p ⟨l, .statement env ctx (.field loc key (some (.error iloc fault)) e), m⟩
  | nameless {l : Nat} {env : Environment} {ctx : Context} {loc : Coordinate}
    {params : List Param} {body : List Statement} {m : Machine} :
    Malformed p ⟨l, .statement env ctx (.function loc none params body), m⟩
  | selector {l : Nat} {env : Environment} {ctx : Context} {loc : Coordinate}
    {attributes : List Attribute} {selector : Selector} {body : List Statement} {m : Machine}
    {text : String} {host : Host} :
    isWanted p attributes ctx.selected = true →
    selector.resolve p ctx.element m.host = (.error (.invalid text), host) →
    Malformed p ⟨l, .statement env ctx (.selection loc attributes selector body), m⟩

/-- At the moment, a routine is entered at the limit on the depth of calls, or a selection is to
run whose selector fails; this is the failure. -/
inductive Refuses (p : Provision) : Moment → Failure → Prop
  | call {l : Nat} {callee : String} {r : Routine} {args : List Argument} {frame : Environment}
    {ctx : Context} {loc : Coordinate} {m : Machine} :
    p.settings.limits.maxCallDepth ≤ m.callDepth →
    Refuses p ⟨l + 1, .routine callee r args frame ctx loc, m⟩
      ⟨loc, .callLimit p.settings.limits.maxCallDepth⟩
  | selector {l : Nat} {env : Environment} {ctx : Context} {loc : Coordinate}
    {attributes : List Attribute} {selector : Selector} {body : List Statement} {m : Machine}
    {e : SelectorError} {host : Host} :
    isWanted p attributes ctx.selected = true →
    selector.resolve p ctx.element m.host = (.error e, host) →
    Refuses p ⟨l, .statement env ctx (.selection loc attributes selector body), m⟩
      ⟨selector.loc, .selector e⟩

/-- A failure originates at a moment: it is plain, or a fault at a malformed moment, or the moment
refuses to go on with it. -/
def Originates (p : Provision) (μ : Moment) (f : Failure) : Prop :=
  f.cause.isPlain = true ∨ f.cause.trouble = .malformed ∧ μ.Malformed p ∨ μ.Refuses p f

/-- A halt is explained at a moment: it is a failure that originates there, it comes from the
operation that traps or from the lack of levels, or something halts with it that is called at the
moment. -/
def Explains (p : Provision) (μ : Moment) (e : Halt) : Prop :=
  (∃ f, e = .failed f ∧ μ.Originates p f) ∨
    (e = .trapped ∧ μ.Traps p) ∨ (e = .exhausted ∧ μ.levels = 0) ∨
    ∃ ν, Next p μ ν ∧ ν.Halts p e

/-! ## Where effects come from -/

/-- What the part of a moment does to the machine by itself: it resolves the selector of a
selection that is to run, or an edit that it has come to is accepted. -/
inductive Acts (p : Provision) : Moment → Machine → Machine → Prop
  | yields {l : Nat} {env : Environment} {ctx : Context} {loc : Coordinate}
    {attributes : List Attribute} {selector : Selector} {body : List Statement} {m : Machine}
    {ids : List ElementId} {host : Host} :
    isWanted p attributes ctx.selected = true →
    selector.resolve p ctx.element m.host = (.ok ids, host) →
    Acts p ⟨l, .statement env ctx (.selection loc attributes selector body), m⟩ m
      (m.ran.yielded host ids)
  | fails {l : Nat} {env : Environment} {ctx : Context} {loc : Coordinate}
    {attributes : List Attribute} {selector : Selector} {body : List Statement} {m : Machine}
    {e : SelectorError} {host : Host} :
    isWanted p attributes ctx.selected = true →
    selector.resolve p ctx.element m.host = (.error e, host) →
    Acts p ⟨l, .statement env ctx (.selection loc attributes selector body), m⟩ m
      { m.ran with host }
  | edits {l : Nat} {env : Environment} {ctx : Context} {s : Statement} {m m' : Machine}
    {loc : Coordinate} {change : Host → Except HostError Host} {host : Host} :
    Requests p (enterWithin p l) env ctx m s loc change m' → change m'.host = .ok host →
    Acts p ⟨l, .statement env ctx s, m⟩ m' (m'.edited host)

end Moment

/-- Nothing has become of the host, and no edit has been counted. -/
structure Machine.Quiet (m m' : Machine) : Prop where
  host : m'.host = m.host
  edits : m'.report.edits = m.report.edits

namespace Moment

/-- What happens while the part of a moment is run: what the part does by itself, and what is
done by the parts that are called. -/
inductive Brings (p : Provision) (μ : Moment) : Machine → Machine → Prop
  | quiet {m m' : Machine} : m.Quiet m' → Brings p μ m m'
  | acts {m m' : Machine} : μ.Acts p m m' → Brings p μ m m'
  | next {ν : Moment} : Next p μ ν → Brings p μ ν.machine (ν.after p)
  | trans {m m' m'' : Machine} : Brings p μ m m' → Brings p μ m' m'' → Brings p μ m m''

theorem Brings.refl {μ : Moment} (m : Machine) : μ.Brings p m m :=
  .quiet ⟨rfl, rfl⟩

end Moment

/-! ## Computations that are composed -/

namespace Run

/-- Whatever a computation halts with is explained at a moment, and whatever it does is done by
the part of the moment or by what is called there. -/
structure Composed (p : Provision) (μ : Moment) (x : Run α) (m : Machine) : Prop where
  halts : ∀ e, HaltsOn e x m → μ.Explains p e
  brings : μ.Brings p m (x.after m)

/-- Making a computation silent changes nothing of what it leaves. -/
theorem after_silently (x : Run α) (m : Machine) : x.silently.after m = x.after m := by
  cases hx : x m with
  | ok a m' =>
    rw [silently, after_bind_ok _ hx, after_ok hx]
    rfl
  | error e m' => rw [silently, after_error (bind_error hx), after_error hx]

namespace Composed

variable {μ ν : Moment} {m : Machine} {x : Run α}

/-! ### Rules -/

theorem pure (a : α) : Composed p μ (pure a) m where
  halts _ h := absurd h HaltsOn.not_pure
  brings := .refl m

/-- What always has an answer has nothing to explain. -/
theorem modify (f : Machine → α × Machine) (hquiet : m.Quiet (f m).2) :
    Composed p μ (MonadStateOf.modifyGet f : Run α) m where
  halts e h := by
    obtain ⟨m', h⟩ := h
    cases h
  brings := .quiet hquiet

/-- What halts at once has to be explained only. -/
theorem halt {e : Halt} (h : μ.Explains p e) : Composed p μ (throw e : Run α) m where
  halts e' he := by
    obtain ⟨m', he⟩ := he
    cases he
    exact h
  brings := .refl m

/-- A computation is composed of two that follow each other: where the first halts, so does the
whole, and otherwise the second is explained behind it. -/
theorem bind {f : α → Run β} (hx : Composed p μ x m)
    (hf : ∀ a m', x m = .ok a m' → Composed p μ (f a) m') : Composed p μ (x >>= f) m := by
  refine ⟨fun e h => ?_, ?_⟩
  · rcases HaltsOn.bind_iff.mp h with h | ⟨a, m', ha, h⟩
    · exact hx.halts e h
    · exact (hf a m' ha).halts e h
  · have hbrings := hx.brings
    cases hr : x m with
    | ok a m' =>
      rw [after_ok hr] at hbrings
      rw [after_bind_ok f hr]
      exact hbrings.trans (hf a m' hr).brings
    | error e m' =>
      rw [after_error hr] at hbrings
      rw [after_error (bind_error hr)]
      exact hbrings

theorem get {f : Machine → Run β} (hf : Composed p μ (f m) m) :
    Composed p μ (MonadState.get >>= f) m :=
  ⟨hf.halts, hf.brings⟩

/-- What ends like another computation, from a machine that is come to at the moment, is composed
like it. -/
theorem behind {y : Run α} {m' : Machine} (h : x m = y m') (hm : μ.Brings p m m')
    (hy : Composed p μ y m') : Composed p μ x m := by
  refine ⟨fun e hx => ?_, ?_⟩
  · rw [HaltsOn, h] at hx
    exact hy.halts e hx
  · rw [after, h]
    exact hm.trans hy.brings

/-- Computations that end alike are explained alike. -/
theorem congr {y : Run α} (h : x m = y m) (hy : Composed p μ y m) : Composed p μ x m :=
  behind h (.refl m) hy

theorem silent (h : Composed p μ x.silently m) : Composed p μ x m where
  halts e hx := h.halts e (HaltsOn.quiet hx)
  brings := after_silently x m ▸ h.brings

/-- What stops with a cause fails if the cause is not the trap. -/
theorem failure {loc : Coordinate} {cause : Cause} (htrap : cause ≠ .operator .trap)
    (h : μ.Originates p ⟨loc, cause⟩) : Composed p μ (fail loc cause : Run α) m := by
  rw [Run.fail, if_neg htrap]
  exact halt (.inl ⟨_, rfl, h⟩)

/-- A plain cause explains itself. -/
theorem fail {loc : Coordinate} {cause : Cause} (h : cause.isPlain = true) :
    Composed p μ (Run.fail loc cause : Run α) m :=
  failure (Cause.ne_trap_of_isPlain h) (.inl h)

/-- What is malformed explains a halt that says so. -/
theorem malformed {loc : Coordinate} {cause : Cause} (h : μ.Malformed p)
    (hcause : cause.trouble = .malformed) : Composed p μ (Run.fail loc cause : Run α) m := by
  refine failure (fun hc => ?_) (.inr (.inl ⟨hcause, h⟩))
  subst hc
  cases hcause

/-- A refusal explains the halt that it causes. -/
theorem refused {loc : Coordinate} {cause : Cause} (h : μ.Refuses p ⟨loc, cause⟩) :
    Composed p μ (Run.fail loc cause : Run α) m := by
  refine failure (fun hc => ?_) (.inr (.inr h))
  subst hc
  cases h

/-- Nothing goes on behind a cause. -/
theorem failing {loc : Coordinate} {cause : Cause} {f : α → Run β}
    (h : cause.isPlain = true) : Composed p μ (Run.fail loc cause >>= f) m :=
  bind (fail h) fun _ _ ha => nomatch ha

theorem ofExcept {ε : Type} {loc : Coordinate} {cause : ε → Cause} {r : Except ε α}
    (h : ∀ e, r = .error e → (cause e).isPlain = true) :
    Composed p μ (ofExcept loc cause r) m := by
  cases r with
  | ok a => exact pure a
  | error e => exact fail (h e rfl)

theorem plain {loc : Coordinate} {r : Except Cause α} (h : Plain r) :
    Composed p μ (Run.ofExcept loc id r) m := by
  cases r with
  | ok a => exact pure a
  | error cause => exact fail h

/-- What goes on behind a check goes on with its answer and on the same machine. -/
theorem check {loc : Coordinate} {r : Except Cause α} {f : α → Run β} (h : Plain r)
    (hf : ∀ a, r = .ok a → Composed p μ (f a) m) :
    Composed p μ (Run.ofExcept loc id r >>= f) m := by
  refine bind (plain h) fun a m' ha => ?_
  obtain ⟨hr, rfl⟩ := ofExcept_eq_ok ha
  exact hf a hr

/-- A part that is called is composed of the call. -/
theorem next {x : Run Unit} (h : Moment.Next p μ ν)
    (hx : ν.part.run p (enterWithin p ν.levels) = x) : Composed p μ x ν.machine := by
  subst hx
  exact ⟨fun e he => .inr (.inr (.inr ⟨ν, h, he⟩)), .next h⟩

/-- So is a part that is called for its answer. -/
theorem call (h : Moment.Next p μ ν)
    (hx : ν.part.run p (enterWithin p ν.levels) = x.silently) : Composed p μ x ν.machine :=
  silent (next h hx)

/-- A call one level deeper is composed of what it runs. -/
theorem withCall {limit : Nat} {loc : Coordinate} (hd : m.callDepth < limit)
    (hx : Composed p μ x m.deeper) : Composed p μ (Run.withCall limit loc x) m := by
  refine ⟨fun e h => hx.halts e ((haltsOn_withCall_iff hd).mp h), ?_⟩
  have hbrings := hx.brings
  have hdeeper : μ.Brings p m m.deeper := .quiet ⟨rfl, rfl⟩
  have hrun := withCall_of_lt loc x hd
  cases hr : x m.deeper with
  | ok a m' =>
    rw [hr] at hrun
    rw [after_ok hr] at hbrings
    rw [after_ok hrun]
    exact (hdeeper.trans hbrings).trans (.quiet ⟨rfl, rfl⟩)
  | error e m' =>
    rw [hr] at hrun
    rw [after_error hr] at hbrings
    rw [after_error hrun]
    exact (hdeeper.trans hbrings).trans (.quiet ⟨rfl, rfl⟩)

/-! ### Primitives -/

theorem child (env : Environment) : Composed p μ (Run.child env) m :=
  modify _ ⟨rfl, rfl⟩

theorem declare (env : Environment) (name : String) (v : Value) :
    Composed p μ (Run.declare env name v) m :=
  modify _ ⟨rfl, rfl⟩

/-- What is meant for the selected element is done where there is one. -/
theorem target {ctx : Context} {loc : Coordinate} {site : EditSite} {f : ElementId → Run α}
    (hf : ctx.selected = true → Composed p μ (f ctx.element) m) :
    Composed p μ (Run.target ctx loc site >>= f) m := by
  by_cases hsel : ctx.selected = true
  · rw [target_of_selected hsel]
    exact hf hsel
  · rw [Run.target, if_neg hsel]
    exact failing rfl

/-- An edit that is refused changes nothing. -/
theorem edit {loc : Coordinate} {change : Host → Except HostError Host}
    (haccepted : ∀ host, change m.host = .ok host → μ.Brings p m (m.edited host)) :
    Composed p μ (Run.edit loc change) m := by
  cases hc : change m.host with
  | ok host =>
    have hedit := edit_ok loc change hc
    refine ⟨fun e he => ?_, ?_⟩
    · obtain ⟨m', he⟩ := he
      rw [hedit] at he
      cases he
    · rw [after_ok hedit]
      exact haccepted host hc
  | error err => exact congr (edit_error loc change hc) (halt (.inl ⟨_, rfl, .inl rfl⟩))

/-- An edit that a statement has come to is what the statement does. -/
theorem requested {l : Nat} {env : Environment} {ctx : Context} {s : Statement}
    {m' : Machine} {loc : Coordinate} {change : Host → Except HostError Host}
    (hr : Requests p (enterWithin p l) env ctx m s loc change m') :
    Composed p ⟨l, .statement env ctx s, m⟩ (Run.edit loc change) m' :=
  edit fun _ hc => .acts (.edits hr hc)

/-- Subscripts fail for plain causes. -/
theorem subscript (loc : Coordinate) (v w : Value) :
    Composed p μ (Run.subscript loc v w) m := by
  unfold Run.subscript
  cases v with
  | list items =>
    cases w with
    | int n =>
      dsimp only
      generalize (if n.toInt < 0 then none else items[n.toInt.toNat]?) = found
      cases found with
      | some item => exact pure item
      | none => exact fail rfl
    | _ => exact fail rfl
  | object entries =>
    cases w with
    | string key =>
      dsimp only
      generalize Table.get? entries key = found
      cases found with
      | some entry => exact pure entry
      | none => exact fail rfl
    | _ => exact fail rfl
  | _ => exact fail rfl

theorem bound (loc : Coordinate) (which : String) (v : Value) :
    Composed p μ (Run.bound loc which v) m := by
  cases v with
  | int n => exact pure n
  | _ => exact fail rfl

theorem exportBindings (params : List Param) (env : Environment) (declared : Table Value) :
    Composed p μ (Run.exportBindings params env declared) m := by
  induction declared generalizing m with
  | nil => exact pure ()
  | cons entry rest ih =>
    unfold Run.exportBindings
    split
    · exact (declare env entry.1 entry.2).bind fun _ _ _ => ih
    · exact ih

/-- A builtin goes on with its arguments sorted, or fails at the first that is named. -/
theorem sorted {name : String} {args : List Argument} {f : Inputs → Run α}
    (hf : ∀ inputs, Inputs.ofArguments name args = .ok inputs → Composed p μ (f inputs) m) :
    Composed p μ (match Inputs.ofArguments name args with
      | .ok inputs => Pure.pure inputs >>= f
      | .error (loc, cause) => Run.fail loc cause >>= f) m := by
  cases h : Inputs.ofArguments name args with
  | ok inputs => exact hf inputs h
  | error e =>
    have hcause : e.2.isPlain = true := by
      rw [Inputs.ofArguments_error h]
      rfl
    exact failing hcause

/-- So do builtins. -/
theorem callBuiltin (ctx : Context) (loc : Coordinate) (name : String) (args : List Argument) :
    Composed p μ (Run.callBuiltin ctx loc name args) m := by
  refine sorted fun inputs _ => ?_
  cases Builtin.named? name with
  | none => exact fail rfl
  | some b =>
    refine check (.expect _ _ _ _) fun values _ => get ?_
    split
    · exact target fun _ => pure _
    · exact plain (.ofValues b values)

end Composed

end Run

end Graft
