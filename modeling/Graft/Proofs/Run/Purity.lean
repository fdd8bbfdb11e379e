import Graft.Proofs.Run.Moment

/-!
Expressions have no side effects.

An expression may call functions and closures, and these declare variables, run loops and
call each other. All of that happens in frames that are opened on the way: whatever the
outcome is, the evaluation leaves the host, the report, the routines, the depth of calls
and all frames that were there before as they were.

That rests on what drafts can say. The body of a function or a closure holds statements of
functions only, so an evaluation that begins where all functions come from drafts never
meets an edit, a selection, an inclusion or a definition.
-/

set_option autoImplicit false

namespace Graft

/-! ## Reachable machines -/

/-- A machine that an execution can be in: at a moment of the execution of a patch that was
read from a draft, or behind the part that is run at that moment. -/
def Reachable (p : Provision) (m : Machine) : Prop :=
  ∃ (d : Draft) (h : Host) (μ : Moment),
    Moment.Reaches p (Moment.start p (Patch.ofDraft d) h) μ ∧ (m = μ.machine ∨ m = μ.after p)

/-- Before anything is run. -/
theorem Reachable.start (p : Provision) (h : Host) : Reachable p (Machine.start h).2 :=
  ⟨default, h, _, .refl, .inl rfl⟩

/-- All that a registry from drafts defines as a function is one throughout. -/
theorem Registry.FromDrafts.definesFunction {r : Registry} (hr : r.FromDrafts) :
    r.Every Statement.DefinesFunction :=
  hr.every Statement.definesFunction_of_isFunctionLevel
    Draft.BlockStatement.definesFunction_read Draft.TopStatement.definesFunction_read

/-- The functions that a machine knows hold statements of functions only. -/
def Machine.FunctionsOnly (m : Machine) : Prop :=
  ∀ (name : String) (f : Routine), Table.get? m.functions name = some f →
    f.Every fun s => s.isFunctionLevel = true

theorem Machine.FunctionsOnly.change {t : Terms} (ht : t.statements = Statement.DefinesFunction)
    {m m' : Machine} (h : Change t m m') (hm : m.FunctionsOnly) : m'.FunctionsOnly := by
  cases h with
  | function hs =>
    rw [ht] at hs
    exact fun _ _ hf => Table.of_get?_insert hs.1 (hm _ _) hf
  | opened | bound | mixin | stage | skipped | ran | failed | yielded | edited => exact hm

/-- At whatever machine an execution arrives, the functions that have been defined hold
statements of functions only. -/
theorem Reachable.functionsOnly {p : Provision} (hp : p.registry.FromDrafts) {m : Machine}
    (hm : Reachable p m) : m.FunctionsOnly := by
  obtain ⟨d, h, μ, hμ, hmachine⟩ := hm
  have hinv := Moment.Reaches.invariant (J := Machine.FunctionsOnly) hp.definesFunction
    (Patch.definesFunction_ofDraft d) (fun hc hm => hm.change rfl hc) (fun _ hm => hm)
    (fun _ _ hf => by cases hf) hμ
  rcases hmachine with rfl | rfl
  · exact hinv.1
  · exact hinv.2

/-! ## Evaluation -/

/-- A machine that has frames beyond those of another and is otherwise the same. -/
structure Machine.Extends (m m' : Machine) : Prop where
  host : m'.host = m.host
  report : m'.report = m.report
  functions : m'.functions = m.functions
  mixins : m'.mixins = m.mixins
  callDepth : m'.callDepth = m.callDepth
  size : m.frames.size ≤ m'.frames.size
  bindings : ∀ id, id < m.frames.size → m'.frames.bindings id = m.frames.bindings id

/-- The terms of evaluating an expression where there are so many frames: statements of
functions only, and bindings in new frames only. -/
def Terms.evaluation (p : Provision) (hp : p.registry.FromDrafts) (frames : Nat) : Terms where
  provision := p
  statements := fun s => s.isFunctionLevel = true
  frames := fun id => frames ≤ id
  base := frames
  accounted := False
  own := fun _ h => h
  global := fun ⟨_, _, h⟩ => by cases h
  registry :=
    { functions := fun hf => by
        obtain ⟨params, body, rfl⟩ := hp.functions hf
        exact Draft.routine_every_readFunction (fun _ h => h) params body
      mixins := fun ⟨_, _, _, h⟩ => by cases h
      libraries := fun ⟨_, _, h⟩ => by cases h }

section

variable {p : Provision} {hp : p.registry.FromDrafts} {frames : Nat}

/-- A machine whose functions hold statements of functions only is in order for an evaluation. -/
theorem Machine.FunctionsOnly.sound {m : Machine} (hm : m.FunctionsOnly) :
    m.Sound (.evaluation p hp m.frames.size) fun _ => False where
  functions := hm _ _
  mixins := fun ⟨_, _, _, h⟩ => by cases h
  base := Nat.le_refl _
  matched := fun _ hid => hid.elim

/-- No account is kept of elements, so a context has nothing to promise. -/
theorem Context.admitted_evaluation (ctx : Context) :
    ctx.Admitted (.evaluation p hp frames) fun _ => False :=
  fun haccounted _ => haccounted.elim

end

/-- On the terms of an evaluation there is nothing to do but to open frames and to bind names
in them. -/
theorem Evolves.extends {p : Provision} {hp : p.registry.FromDrafts} {frames : Nat}
    {m m' : Machine} (hframes : m.frames.size = frames)
    (h : Evolves (.evaluation p hp frames) m m') : m.Extends m' := by
  have hrest : m'.host = m.host ∧ m'.report = m.report ∧ m'.functions = m.functions ∧
      m'.mixins = m.mixins := by
    refine h.invariant (J := fun m' => m'.host = m.host ∧ m'.report = m.report ∧
      m'.functions = m.functions ∧ m'.mixins = m.mixins) ?_ (fun _ hm => hm) ⟨rfl, rfl, rfl, rfl⟩
    intro n n' hchange hn
    cases hchange with
    | opened | bound => exact hn
    -- Everything else takes a statement that no function holds.
    | function hs => cases hs.1
    | mixin hs => cases hs.1
    | stage hs | skipped hs | ran hs | failed hs | yielded hs => cases hs
    | edited he _ =>
      cases he with
      | set hs | merge hs | field hs => cases hs
      | delete hs hedit =>
        rw [Statement.isEdit_of_isFunctionLevel hs] at hedit
        cases hedit
  obtain ⟨hhost, hreport, hfunctions, hmixins⟩ := hrest
  subst hframes
  exact ⟨hhost, hreport, hfunctions, hmixins, h.callDepth_eq, h.size_le,
    fun _ hid => h.bindings_eq (Nat.not_le.mpr hid)⟩

/-- **Expressions have no side effects.** At whatever machine an execution arrives, in any
environment and context, the evaluation of an expression that was read from a draft opens
frames and does nothing else, whether it ends in a value or in an error. -/
theorem Run.evaluate_extends {p : Provision} (hp : p.registry.FromDrafts) {m : Machine}
    (hm : Reachable p m) (levels : Nat) (env : Environment) (ctx : Context) (e : Draft.Expr) :
    m.Extends ((Run.evaluate p (Run.enterWithin p levels) env ctx e.read).after m) := by
  have hmakes := Makes.evaluate (Run.enterWithin_keeps (.evaluation p hp m.frames.size) levels) env
    ctx.admitted_evaluation e.read (e.every_read fun _ h => h)
  exact (hmakes m (hm.functionsOnly hp).sound).1.extends rfl

/-- A registry with one function, `keep`, that declares `y` as its argument and returns it. -/
def Registry.keeping : Registry :=
  let body : List Draft.FunctionStatement :=
    [.declare .origin "$y" (.variable .origin "$x"), .ret .origin (some (.variable .origin "$y"))]
  ⟨[], [("keep", ⟨Draft.readParams [.mk .origin "$x" none], Draft.readFunctionBody body⟩)], [], [],
    []⟩

theorem Registry.fromDrafts_keeping : Registry.keeping.FromDrafts where
  functions {name f} hf := by
    simp only [Registry.function?, Registry.keeping, Table.get?] at hf
    split at hf
    · exact ⟨_, _, (Option.some.inj hf).symm⟩
    · cases hf
  mixins hf := by cases hf
  libraries hf := by cases hf

/-- The call `keep(true)` has the answer `true` and no side effects. -/
theorem Run.evaluate_extends_keep :
    let p : Provision := ⟨.keeping, .standard⟩
    let start := Machine.start (Host.empty [])
    let call := Draft.Expr.call .origin "keep" [.mk .origin none (.boolean .origin true)]
    let run := Run.evaluate p (Run.enterWithin p 2) start.1 default call.read
    start.2.Extends (run.after start.2) ∧ ∃ m, run start.2 = .ok (.bool true) m :=
  ⟨Run.evaluate_extends Registry.fromDrafts_keeping (Reachable.start _ _) 2 _ default _, _, rfl⟩

end Graft
