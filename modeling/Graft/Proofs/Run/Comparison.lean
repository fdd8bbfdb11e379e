import Mathlib.Data.List.Forall2
import Graft.Proofs.Run.Evolution

/-!
Comparing two runs of the same code.

Two runs are compared by a relation between computations. Which relation it is depends on what
is to be shown, but the way through the interpreter does not: whatever relation is kept by the
ways in which computations are put together, and holds of the primitives, holds of the two runs of
an expression, of a call and of a loop. `Comparison` says what a relation has to offer for that,
and what follows is proved once for all of them, by induction over the structure of expressions
and over what the loops go through.

The code of functions and closures is the same in both runs. What is known of its statements is a
parameter, and so is how the scopes of the two runs correspond.
-/

set_option autoImplicit false

namespace Graft

/-- A statement that holds no others but in expressions, and concerns routines by calls only. `P`
holds of all statements in its expressions. -/
def Statement.Plain (P : Statement → Prop) : Statement → Prop
  | .declare _ _ e => e.Every P
  | .ret _ e => Expr.EveryOf P e
  | .set _ e => e.Every P
  | .delete _ => True
  | .merge _ e => e.Every P
  | .field _ _ _ e => e.Every P
  | .expression _ e => e.Every P
  | .error _ _ => True
  | _ => False

/-- A way to compare the computations of two runs. -/
structure Comparison where
  /-- What the left run is provided with. -/
  left : Provision
  /-- What the right run is provided with. -/
  right : Provision
  /-- What is known of the statements of functions and closures. -/
  functional : Statement → Prop
  /-- Environments of the left and of the right run. -/
  envs : Environment → Environment → Prop
  /-- Environments whose innermost frames were opened on the way. -/
  fresh : Environment → Environment → Prop
  /-- What is left of the budgets of a loop. -/
  budgets : Nat → Nat → Prop
  /-- The two computations are alike, and their answers are related. -/
  Alike : {α β : Type} → (α → β → Prop) → Run α → Run β → Prop
  fields : left.settings.fields = right.settings.fields
  function?_eq : ∀ name, left.registry.function? name = right.registry.function? name
  functional_function? : ∀ {name : String} {f : Routine},
    right.registry.function? name = some f → f.Every functional
  envs_of_fresh : ∀ {env₁ env₂ : Environment}, fresh env₁ env₂ → envs env₁ env₂
  globalScope : ∀ {env₁ env₂ : Environment}, envs env₁ env₂ →
    envs env₁.globalScope env₂.globalScope
  budgets_start :
    budgets left.settings.limits.maxLoopIterations right.settings.limits.maxLoopIterations
  budgets_succ : ∀ {n₁ n₂ : Nat}, budgets (n₁ + 1) n₂ → ∃ n, n₂ = n + 1 ∧ budgets n₁ n
  /-- Where the left run is at the limit of a loop, the right one is too, or nothing is compared. -/
  spent : ∀ {α β : Type} {Q : α → β → Prop} (loc : Coordinate) {n : Nat} {x₂ : Run β}, budgets 0 n →
    (n = 0 → x₂ = Run.fail loc (.loopLimit right.settings.limits.maxLoopIterations)) →
    Alike Q (Run.fail loc (.loopLimit left.settings.limits.maxLoopIterations)) x₂
  pure : ∀ {α β : Type} {Q : α → β → Prop} {a : α} {b : β}, Q a b → Alike Q (pure a) (pure b)
  bind : ∀ {α β γ δ : Type} {Q : α → β → Prop} {R : γ → δ → Prop} {x₁ : Run α} {x₂ : Run β}
    {f₁ : α → Run γ} {f₂ : β → Run δ}, Alike Q x₁ x₂ → (∀ a b, Q a b → Alike R (f₁ a) (f₂ b)) →
    Alike R (x₁ >>= f₁) (x₂ >>= f₂)
  fail : ∀ {α β : Type} {Q : α → β → Prop} (loc : Coordinate) (cause : Cause),
    Alike Q (Run.fail loc cause) (Run.fail loc cause)
  /-- The two runs agree in the host and in the functions. -/
  get : ∀ {α β : Type} {Q : α → β → Prop} {f₁ : Machine → Run α} {f₂ : Machine → Run β},
    (∀ m₁ m₂ : Machine, m₁.host = m₂.host → m₁.functions = m₂.functions →
      (∀ {name : String} {f : Routine}, Table.get? m₂.functions name = some f →
        f.Every functional) → Alike Q (f₁ m₁) (f₂ m₂)) →
    Alike Q (MonadState.get >>= f₁) (MonadState.get >>= f₂)
  /-- They find the same under a name. -/
  inward : ∀ {α β : Type} {Q : α → β → Prop} {env₁ env₂ : Environment} (name : String)
    (k₁ : Option Value → Run α) (k₂ : Option Value → Run β), envs env₁ env₂ →
    (∀ found, Alike Q (k₁ found) (k₂ found)) →
    Alike Q (MonadState.get >>= fun m => k₁ (env₁.findInward? m.frames name))
      (MonadState.get >>= fun m => k₂ (env₂.findInward? m.frames name))
  outward : ∀ {α β : Type} {Q : α → β → Prop} {env₁ env₂ : Environment} (name : String)
    (k₁ : Option Value → Run α) (k₂ : Option Value → Run β), envs env₁ env₂ →
    (∀ found, Alike Q (k₁ found) (k₂ found)) →
    Alike Q (MonadState.get >>= fun m => k₁ (env₁.findOutward? m.frames name))
      (MonadState.get >>= fun m => k₂ (env₂.findOutward? m.frames name))
  /-- They have declared the same in a frame that was opened on the way. -/
  declared : ∀ {α β : Type} {Q : α → β → Prop} {env₁ env₂ : Environment}
    (k₁ : Table Value → Run α) (k₂ : Table Value → Run β), fresh env₁ env₂ →
    (∀ found, Alike Q (k₁ found) (k₂ found)) →
    Alike Q (MonadState.get >>= fun m => k₁ (env₁.declared m.frames))
      (MonadState.get >>= fun m => k₂ (env₂.declared m.frames))
  child : ∀ {env₁ env₂ : Environment}, envs env₁ env₂ →
    Alike fresh (Run.child env₁) (Run.child env₂)
  declare : ∀ {env₁ env₂ : Environment}, envs env₁ env₂ → ∀ (name : String) (v : Value),
    Alike (· = ·) (Run.declare env₁ name v) (Run.declare env₂ name v)
  edit : ∀ (loc : Coordinate) (change : Host → Except HostError Host),
    Alike (· = ·) (Run.edit loc change) (Run.edit loc change)

namespace Comparison

variable {α β γ δ : Type} {C : Comparison}

/-- The two computations are alike and have the same answers. -/
abbrev Same (C : Comparison) (x₁ x₂ : Run α) : Prop := C.Alike (· = ·) x₁ x₂

/-! ## Arguments -/

/-- The same closure, with scopes that correspond. -/
structure Closures (C : Comparison) (c₁ c₂ : Closure) : Prop where
  params : c₁.params = c₂.params
  body : c₁.body = c₂.body
  env : C.envs c₁.env c₂.env
  functional : c₂.Every C.functional

/-- The same values and closures in the same places. -/
inductive Arguments (C : Comparison) : List Argument → List Argument → Prop
  | nil : Arguments C [] []
  | value (loc : Coordinate) (name : Option String) (v : Value) {args₁ args₂ : List Argument} :
    Arguments C args₁ args₂ →
    Arguments C (⟨loc, name, .value v⟩ :: args₁) (⟨loc, name, .value v⟩ :: args₂)
  | closure (loc : Coordinate) (name : Option String) {c₁ c₂ : Closure}
    {args₁ args₂ : List Argument} : C.Closures c₁ c₂ → Arguments C args₁ args₂ →
    Arguments C (⟨loc, name, .closure c₁⟩ :: args₁) (⟨loc, name, .closure c₂⟩ :: args₂)

/-- The same values, and closures that correspond. -/
structure SameInputs (C : Comparison) (i₁ i₂ : Inputs) : Prop where
  values : i₁.values = i₂.values
  closures : List.Forall₂ C.Closures i₁.closures i₂.closures

/-- Values without closures are the same arguments in both runs. -/
theorem Arguments.plain (loc : Coordinate) (values : List Value) :
    C.Arguments (values.map (Argument.plain loc)) (values.map (Argument.plain loc)) := by
  induction values with
  | nil => exact .nil
  | cons v rest ih => exact .value loc none v ih

/-- The receiver of a method that is a function goes before its arguments, in both runs. -/
theorem Arguments.receive {args₁ args₂ : List Argument} (h : C.Arguments args₁ args₂)
    (loc : Coordinate) (receiver : Option Value) :
    C.Arguments ((receiver.map (Argument.plain loc)).toList ++ args₁)
      ((receiver.map (Argument.plain loc)).toList ++ args₂) := by
  cases receiver with
  | none => exact h
  | some v => exact .value loc none v h

/-- Arguments that correspond fill the same slots. -/
theorem Arguments.fillAll_eq {args₁ args₂ : List Argument} (h : C.Arguments args₁ args₂)
    (callee : String) :
    ∀ slots : Slots, slots.fillAll callee args₁ = slots.fillAll callee args₂ := by
  induction h with
  | nil => exact fun _ => rfl
  | value loc name v _ ih =>
    intro slots
    simp only [Slots.fillAll]
    cases slots.fill callee ⟨loc, name, .value v⟩ with
    | ok filled => exact ih filled
    | error cause => rfl
  -- A closure is refused, whichever it is.
  | closure loc name _ _ _ => exact fun _ => rfl

/-- Arguments that correspond are sorted alike, up to their closures. -/
theorem Arguments.sorted {args₁ args₂ : List Argument} (h : C.Arguments args₁ args₂)
    (callee : String) :
    (∃ e, Inputs.ofArguments callee args₁ = .error e ∧ Inputs.ofArguments callee args₂ = .error e) ∨
    ∃ i₁ i₂, Inputs.ofArguments callee args₁ = .ok i₁ ∧ Inputs.ofArguments callee args₂ = .ok i₂ ∧
      C.SameInputs i₁ i₂ := by
  induction h with
  | nil => exact .inr ⟨_, _, rfl, rfl, rfl, .nil⟩
  | value loc name v _ ih =>
    simp only [Inputs.ofArguments]
    cases name with
    | some name => exact .inl ⟨_, rfl, rfl⟩
    | none =>
      rcases ih with ⟨e, h₁, h₂⟩ | ⟨i₁, i₂, h₁, h₂, hi⟩
      · rw [h₁, h₂]
        exact .inl ⟨e, rfl, rfl⟩
      · rw [h₁, h₂]
        exact .inr ⟨⟨v :: i₁.values, i₁.closures⟩, ⟨v :: i₂.values, i₂.closures⟩, rfl, rfl,
          congrArg (v :: ·) hi.values, hi.closures⟩
  | closure loc name hc _ ih =>
    simp only [Inputs.ofArguments]
    cases name with
    | some name => exact .inl ⟨_, rfl, rfl⟩
    | none =>
      rcases ih with ⟨e, h₁, h₂⟩ | ⟨i₁, i₂, h₁, h₂, hi⟩
      · rw [h₁, h₂]
        exact .inl ⟨e, rfl, rfl⟩
      · rw [h₁, h₂]
        exact .inr ⟨⟨i₁.values, _ :: i₁.closures⟩, ⟨i₂.values, _ :: i₂.closures⟩, rfl, rfl,
          hi.values, .cons hc hi.closures⟩

/-- Whether a builtin gets as many values as it asks for, and no closures, does not depend on the
run. -/
theorem SameInputs.expect_eq {i₁ i₂ : Inputs} (h : C.SameInputs i₁ i₂) (callee : String)
    (least most : Nat) : i₁.expect callee least most = i₂.expect callee least most := by
  obtain ⟨values, closures⟩ := i₁
  obtain ⟨values', closures'⟩ := i₂
  obtain ⟨rfl, hclosures⟩ := h
  cases hclosures with
  | nil => rfl
  | cons _ _ => rfl

/-- A method that asks for one closure gets it in both runs, or fails in both for the same
cause. -/
theorem SameInputs.onlyClosure {i₁ i₂ : Inputs} (h : C.SameInputs i₁ i₂) (method : String) :
    (∃ e, i₁.onlyClosure method = .error e ∧ i₂.onlyClosure method = .error e) ∨
    ∃ c₁ c₂, i₁.onlyClosure method = .ok c₁ ∧ i₂.onlyClosure method = .ok c₂ ∧
      C.Closures c₁ c₂ := by
  obtain ⟨values, closures⟩ := i₁
  obtain ⟨values', closures'⟩ := i₂
  obtain ⟨rfl, hclosures⟩ := h
  cases values with
  | cons v vs => exact .inl ⟨_, rfl, rfl⟩
  | nil =>
    cases hclosures with
    | nil => exact .inl ⟨_, rfl, rfl⟩
    | cons hc hrest =>
      cases hrest with
      | nil => exact .inr ⟨_, _, rfl, rfl, hc⟩
      | cons _ _ => exact .inl ⟨_, rfl, rfl⟩

/-- Routines of functions and closures are entered alike. -/
def Enters (C : Comparison) (enter₁ enter₂ : Enter) : Prop :=
  ∀ (callee : String) {routine : Routine} {args₁ args₂ : List Argument}
    {frame₁ frame₂ : Environment} (ctx : Context) (loc : Coordinate),
    routine.Every C.functional → C.Arguments args₁ args₂ → C.envs frame₁ frame₂ →
    C.Same (enter₁ callee routine args₁ frame₁ ctx loc)
      (enter₂ callee routine args₂ frame₂ ctx loc)

/-! ## Rules -/

/-- Computations with the same answers, and what goes on with an answer. -/
theorem bindSame {R : γ → δ → Prop} {y₁ y₂ : Run α} {f₁ : α → Run γ} {f₂ : α → Run δ}
    (hy : C.Same y₁ y₂) (hf : ∀ a, C.Alike R (f₁ a) (f₂ a)) :
    C.Alike R (y₁ >>= f₁) (y₂ >>= f₂) :=
  C.bind hy fun a _ hab => hab ▸ hf a

theorem same (a : α) : C.Same (Pure.pure a) (Pure.pure a) :=
  C.pure rfl

/-- A check has one outcome, which is an answer in both runs or a failure in both. -/
theorem ofExcept {ε : Type} (loc : Coordinate) (cause : ε → Cause) (r : Except ε α) :
    C.Same (Run.ofExcept loc cause r) (Run.ofExcept loc cause r) := by
  cases r with
  | ok a => exact same a
  | error e => exact C.fail loc (cause e)

/-- What loops, branches and selections run in a frame of its own. -/
theorem inChild {env₁ env₂ : Environment} (henv : C.envs env₁ env₂)
    {body₁ body₂ : Environment → Run α}
    (h : ∀ {scope₁ scope₂ : Environment}, C.envs scope₁ scope₂ →
      C.Same (body₁ scope₁) (body₂ scope₂)) :
    C.Same (Run.child env₁ >>= body₁) (Run.child env₂ >>= body₂) :=
  C.bind (C.child henv) fun _ _ hscope => h (C.envs_of_fresh hscope)

/-! ## Going through lists -/

section

variable {f₁ f₂ : Value → Run Value} (hf : ∀ v, C.Same (f₁ v) (f₂ v))

include hf

/-- Lists are gone through alike if each step is. The induction is on the list. -/
theorem mapM (items : List Value) : C.Same (items.mapM f₁) (items.mapM f₂) := by
  induction items with
  | nil =>
    rw [List.mapM_nil, List.mapM_nil]
    exact same []
  | cons v rest ih =>
    rw [List.mapM_cons, List.mapM_cons]
    exact bindSame (hf v) fun _ => bindSame ih fun _ => same _

end

section

variable {f₁ f₂ : Value → Run Bool} (hf : ∀ v, C.Same (f₁ v) (f₂ v))

include hf

theorem filterAuxM : ∀ items kept : List Value,
    C.Same (items.filterAuxM f₁ kept) (items.filterAuxM f₂ kept)
  | [], _ => same _
  | v :: rest, _ => bindSame (hf v) fun _ => filterAuxM rest _

/-- A filter keeps the same items in both runs, because the test has the same answers. -/
theorem filterM (items : List Value) : C.Same (items.filterM f₁) (items.filterM f₂) :=
  bindSame (filterAuxM hf items []) fun _ => same _

/-- A search ends at the same item in both runs. -/
theorem anyM (items : List Value) : C.Same (items.anyM f₁) (items.anyM f₂) := by
  induction items with
  | nil => exact same _
  | cons v rest ih =>
    refine bindSame (hf v) fun b => ?_
    cases b with
    | true => exact same _
    | false => exact ih

/-- So does one that ends at the first item that the test does not hold of. -/
theorem allM (items : List Value) : C.Same (items.allM f₁) (items.allM f₂) := by
  induction items with
  | nil => exact same _
  | cons v rest ih =>
    refine bindSame (hf v) fun b => ?_
    cases b with
    | true => exact ih
    | false => exact same _

end

/-- Methods with closures are alike if the closures are alike for every item. -/
theorem callClosureMethod (m : ClosureMethod) {f₁ f₂ : Value → Run Value}
    (hf : ∀ v, C.Same (f₁ v) (f₂ v)) (items : List Value) :
    C.Same (Run.callClosureMethod m f₁ items) (Run.callClosureMethod m f₂ items) := by
  have htest : ∀ v, C.Same (do return (← f₁ v).isTruthy) (do return (← f₂ v).isTruthy) :=
    fun v => bindSame (hf v) fun _ => same _
  cases m with
  | map => exact bindSame (mapM hf items) fun _ => same _
  | filter => exact bindSame (filterM htest items) fun _ => same _
  | any => exact bindSame (anyM htest items) fun _ => same _
  | all => exact bindSame (allM htest items) fun _ => same _

/-! ## Calls -/

theorem subscript (loc : Coordinate) (target index : Value) :
    C.Same (Run.subscript loc target index) (Run.subscript loc target index) := by
  unfold Run.subscript
  split
  · split
    · exact same _
    · exact C.fail _ _
  · split
    · exact same _
    · exact C.fail _ _
  · exact C.fail _ _

/-- Whether an element may be edited depends on the context, which is the same. -/
theorem target (ctx : Context) (loc : Coordinate) (site : EditSite) :
    C.Same (Run.target ctx loc site) (Run.target ctx loc site) := by
  unfold Run.target
  split
  · exact same _
  · exact C.fail _ _

/-- A builtin goes on with its arguments sorted, or fails at the first that is named. -/
theorem sorted {name : String} {args₁ args₂ : List Argument} (hargs : C.Arguments args₁ args₂)
    {f₁ : Inputs → Run α} {f₂ : Inputs → Run α}
    (hf : ∀ i₁ i₂, C.SameInputs i₁ i₂ → C.Same (f₁ i₁) (f₂ i₂)) :
    C.Same
      (match Inputs.ofArguments name args₁ with
        | .ok inputs => Pure.pure inputs >>= f₁
        | .error (loc, cause) => Run.fail loc cause >>= f₁)
      (match Inputs.ofArguments name args₂ with
        | .ok inputs => Pure.pure inputs >>= f₂
        | .error (loc, cause) => Run.fail loc cause >>= f₂) := by
  rcases hargs.sorted name with ⟨e, h₁, h₂⟩ | ⟨i₁, i₂, h₁, h₂, hi⟩
  · rw [h₁, h₂]
    exact C.fail e.1 e.2
  · rw [h₁, h₂]
    exact hf i₁ i₂ hi

section

variable {enter₁ enter₂ : Enter} {env₁ env₂ : Environment}

section

variable (he : C.Enters enter₁ enter₂)

include he

/-- Closures that correspond have the same statements and parameters. They are run in new frames
inside scopes that correspond. -/
theorem callClosure (ctx : Context) (loc : Coordinate) {c₁ c₂ : Closure} (hc : C.Closures c₁ c₂)
    (values : List Value) :
    C.Same (Run.callClosure enter₁ ctx loc c₁ values)
      (Run.callClosure enter₂ ctx loc c₂ values) := by
  unfold Run.callClosure
  rw [hc.params, hc.body]
  refine C.bind (C.child hc.env) fun _ _ hframe => ?_
  exact bindSame (he "closure" ctx loc hc.functional (.plain loc values) (C.envs_of_fresh hframe))
    fun _ => same _

omit he in
/-- A builtin sees its values and the element of the context, and the hosts of the two runs
agree. -/
theorem callBuiltin (ctx : Context) (loc : Coordinate) (name : String)
    {args₁ args₂ : List Argument} (hargs : C.Arguments args₁ args₂) :
    C.Same (Run.callBuiltin ctx loc name args₁) (Run.callBuiltin ctx loc name args₂) := by
  refine sorted hargs fun i₁ i₂ hi => ?_
  cases Builtin.named? name with
  | none => exact C.fail _ _
  | some b =>
    dsimp only
    rw [hi.expect_eq]
    refine bindSame (ofExcept loc id _) fun values => C.get fun m₁ m₂ hhost _ _ => ?_
    rw [hhost]
    cases b.aboutElement? (m₂.host.get ctx.element) with
    | some v => exact bindSame (target ctx loc _) fun _ => same _
    | none => exact ofExcept loc id _

/-- A method does the same with the same values, and calls closures that correspond. -/
theorem callMethod (ctx : Context) (loc : Coordinate) (name : String) (receiver : Value)
    {args₁ args₂ : List Argument} (hargs : C.Arguments args₁ args₂) :
    C.Same (Run.callMethod enter₁ ctx loc name receiver args₁)
      (Run.callMethod enter₂ ctx loc name receiver args₂) := by
  refine sorted hargs fun i₁ i₂ hi => ?_
  cases ClosureMethod.named? name with
  | some m =>
    dsimp only
    rcases hi.onlyClosure name with ⟨e, h₁, h₂⟩ | ⟨c₁, c₂, h₁, h₂, hc⟩
    · rw [h₁, h₂]
      exact C.fail loc e
    · have hrun : C.Same
          (Run.ofExcept loc id (m.items receiver) >>=
            Run.callClosureMethod m fun v => Run.callClosure enter₁ ctx loc c₁ [v])
          (Run.ofExcept loc id (m.items receiver) >>=
            Run.callClosureMethod m fun v => Run.callClosure enter₂ ctx loc c₂ [v]) :=
        bindSame (ofExcept loc id _)
          (callClosureMethod m fun v => callClosure he ctx loc hc [v])
      rw [h₁, h₂]
      exact hrun
  | none =>
    cases Method.named? name with
    | some m =>
      have hcall : m.call receiver i₁ = m.call receiver i₂ := by
        rw [Method.call, Method.call, hi.expect_eq]
      dsimp only
      rw [hcall]
      exact ofExcept loc id _
    | none => exact C.fail _ _

/-- **Calls.** A name means the same function in both runs, because the machines have the same
functions and the registries agree, or it means the same builtin. -/
theorem call (henv : C.envs env₁ env₂) (ctx : Context) (loc : Coordinate) (name : String)
    (receiver : Option Value) {args₁ args₂ : List Argument} (hargs : C.Arguments args₁ args₂) :
    C.Same (Run.call C.left enter₁ env₁ ctx loc name receiver args₁)
      (Run.call C.right enter₂ env₂ ctx loc name receiver args₂) := by
  refine C.get fun m₁ m₂ _ hfunctions hevery => ?_
  rw [hfunctions, C.function?_eq]
  cases hf : (Table.get? m₂.functions name).or (C.right.registry.function? name) with
  | none =>
    cases receiver with
    | some v => exact callMethod he ctx loc name v hargs
    | none => exact callBuiltin ctx loc name hargs
  | some f =>
    -- The patch has defined the function, or the registry has it.
    have hfunctional : f.Every C.functional := by
      rcases Option.or_eq_some_iff.mp hf with hf | ⟨_, hf⟩
      · exact hevery hf
      · exact C.functional_function? hf
    refine C.bind (C.child (C.globalScope henv)) fun _ _ hframe => ?_
    exact bindSame (he name ctx loc hfunctional (hargs.receive loc receiver)
      (C.envs_of_fresh hframe)) fun _ => same _

end

/-! ## Expressions -/

mutual

/-- **Expressions.** In environments that correspond, an expression is evaluated alike if routines
are entered alike. Everything that the two runs may differ in is behind the primitives of the
comparison. The induction is on the structure of expressions. -/
theorem evaluate (he : C.Enters enter₁ enter₂) (henv : C.envs env₁ env₂) (ctx : Context) :
    ∀ e : Expr, e.Every C.functional →
    C.Same (Run.evaluate C.left enter₁ env₁ ctx e) (Run.evaluate C.right enter₂ env₂ ctx e)
  | .literal _ _, _ => same _
  | .variable loc name, _ =>
    C.inward name (fun | some v => Pure.pure v | none => Run.fail loc (.unboundVariable name))
      (fun | some v => Pure.pure v | none => Run.fail loc (.unboundVariable name)) henv
      fun found => by
        cases found with
        | some v => exact same v
        | none => exact C.fail _ _
  | .localVariable loc name, _ =>
    C.outward name (fun | some v => Pure.pure v | none => Run.fail loc (.unboundLocal name))
      (fun | some v => Pure.pure v | none => Run.fail loc (.unboundLocal name)) henv
      fun found => by
        cases found with
        | some v => exact same v
        | none => exact C.fail _ _
  | .unary loc _ operand, h =>
    bindSame (evaluate he henv ctx operand h) fun _ => ofExcept loc .operator _
  | .binary loc _ left right, h =>
    bindSame (evaluate he henv ctx left h.1) fun _ => by
      split
      · exact same _
      · exact bindSame (evaluate he henv ctx right h.2) fun _ => ofExcept loc .operator _
  | .subscript loc target index, h =>
    bindSame (evaluate he henv ctx target h.1) fun a =>
      bindSame (evaluate he henv ctx index h.2) fun b => subscript loc a b
  | .call loc name args, h =>
    C.bind (evaluateArgs he henv ctx args h) fun _ _ hargs => call he henv ctx loc name none hargs
  | .memberCall loc target name args, h =>
    bindSame (evaluate he henv ctx target h.1) fun receiver =>
      C.bind (evaluateArgs he henv ctx args h.2) fun _ _ hargs =>
        call he henv ctx loc name (some receiver) hargs
  | .ternary _ condition whenTrue whenFalse, h =>
    bindSame (evaluate he henv ctx condition h.1) fun _ => by
      split
      · exact evaluate he henv ctx whenTrue h.2.1
      · exact evaluate he henv ctx whenFalse h.2.2
  | .list _ items, h => bindSame (evaluateAll he henv ctx items h) fun _ => same _
  | .object _ entries, h => bindSame (evaluateEntries he henv ctx entries h []) fun _ => same _
  | .closure loc _ _, _ => C.fail loc .strayClosure
  | .error loc fault, _ => C.fail loc (.fault fault)

/-- The items of a list are evaluated alike, in their order. -/
theorem evaluateAll (he : C.Enters enter₁ enter₂) (henv : C.envs env₁ env₂) (ctx : Context) :
    ∀ es : List Expr, Expr.EveryIn C.functional es →
    C.Same (Run.evaluateAll C.left enter₁ env₁ ctx es)
      (Run.evaluateAll C.right enter₂ env₂ ctx es)
  | [], _ => same _
  | e :: rest, h =>
    bindSame (evaluate he henv ctx e h.1) fun _ =>
      bindSame (evaluateAll he henv ctx rest h.2) fun _ => same _

/-- The entries of an object are evaluated alike, with the same entries known before them. -/
theorem evaluateEntries (he : C.Enters enter₁ enter₂) (henv : C.envs env₁ env₂)
    (ctx : Context) : ∀ entries : List Entry, Entry.EveryIn C.functional entries →
    ∀ known : Table Value,
    C.Same (Run.evaluateEntries C.left enter₁ env₁ ctx known entries)
      (Run.evaluateEntries C.right enter₂ env₂ ctx known entries)
  | [], _, _ => same _
  | .mk _ key e :: rest, h, known =>
    bindSame (evaluate he henv ctx e h.1) fun v =>
      evaluateEntries he henv ctx rest h.2 (Table.insert known key v)

/-- Arguments are evaluated to the same values, and to closures whose scopes correspond. -/
theorem evaluateArgs (he : C.Enters enter₁ enter₂) (henv : C.envs env₁ env₂) (ctx : Context) :
    ∀ args : List Arg, Arg.EveryIn C.functional args →
    C.Alike C.Arguments (Run.evaluateArgs C.left enter₁ env₁ ctx args)
      (Run.evaluateArgs C.right enter₂ env₂ ctx args)
  | [], _ => C.pure .nil
  | .mk loc name e :: rest, h => by
    have hrest := evaluateArgs he henv ctx rest h.2
    have hvalue := evaluate he henv ctx e h.1
    have hfirst := h.1
    cases e with
    | closure _ params body =>
      have hevery : (Closure.mk params body env₂).Every C.functional := ⟨hfirst.1, hfirst.2⟩
      exact C.bind hrest fun _ _ hargs =>
        C.pure (.closure loc name ⟨rfl, rfl, henv, hevery⟩ hargs)
    | _ =>
      exact bindSame hvalue fun v => C.bind hrest fun _ _ hargs =>
        C.pure (.value loc name v hargs)

end

end

/-! ## Loops -/

section

variable (loc : Coordinate)

/-- A loop over numbers runs alike if its body does. The budgets of the two runs may differ; where
the left one is spent, the comparison says what follows. -/
theorem forRange {body₁ body₂ : Int64 → Run Flow} (hbody : ∀ n, C.Same (body₁ n) (body₂ n)) :
    ∀ (count : Nat) (first : Int) {budget₁ budget₂ : Nat}, C.budgets budget₁ budget₂ →
    C.Same (Run.forRange loc C.left.settings.limits.maxLoopIterations body₁ first count budget₁)
      (Run.forRange loc C.right.settings.limits.maxLoopIterations body₂ first count budget₂)
  | 0, _, _, _, _ => same _
  | _ + 1, _, 0, _, h => C.spent loc h fun hzero => by rw [hzero]; rfl
  | count + 1, first, _ + 1, _, h => by
    obtain ⟨_, rfl, hrest⟩ := C.budgets_succ h
    refine bindSame (hbody _) fun flow => ?_
    cases flow with
    | next => exact forRange hbody count (first + 1) hrest
    | returned v => exact same _

/-- A loop over entries runs alike if its body does, with the budgets as above. -/
theorem forEach {body₁ body₂ : Value → Value → Run Flow}
    (hbody : ∀ k v, C.Same (body₁ k v) (body₂ k v)) :
    ∀ (entries : List (Value × Value)) {budget₁ budget₂ : Nat}, C.budgets budget₁ budget₂ →
    C.Same (Run.forEach loc C.left.settings.limits.maxLoopIterations body₁ entries budget₁)
      (Run.forEach loc C.right.settings.limits.maxLoopIterations body₂ entries budget₂)
  | [], _, _, _ => same _
  | _ :: _, 0, _, h => C.spent loc h fun hzero => by rw [hzero]; rfl
  | (k, v) :: rest, _ + 1, _, h => by
    obtain ⟨_, rfl, hrest⟩ := C.budgets_succ h
    refine bindSame (hbody k v) fun flow => ?_
    cases flow with
    | next => exact forEach hbody rest hrest
    | returned v => exact same _

/-- A loop with a condition runs alike if condition and body do. It evaluates the condition once
more where its budget is spent, so this case is split by both budgets. -/
theorem whileTrue {condition₁ condition₂ : Run Value} {body₁ body₂ : Run Flow}
    (hcondition : C.Same condition₁ condition₂) (hbody : C.Same body₁ body₂) :
    ∀ {budget₁ budget₂ : Nat}, C.budgets budget₁ budget₂ →
    C.Same (Run.whileTrue loc C.left.settings.limits.maxLoopIterations condition₁ body₁ budget₁)
      (Run.whileTrue loc C.right.settings.limits.maxLoopIterations condition₂ body₂ budget₂)
  | 0, 0, h => bindSame hcondition fun v => by
    split
    · exact C.spent loc h fun _ => rfl
    · exact same _
  | 0, _ + 1, h => bindSame hcondition fun v => by
    split
    · exact C.spent loc h nofun
    · exact same _
  | _ + 1, _, h => by
    obtain ⟨_, rfl, hrest⟩ := C.budgets_succ h
    refine bindSame hcondition fun v => ?_
    split
    · refine bindSame hbody fun flow => ?_
      cases flow with
      | next => exact whileTrue hcondition hbody hrest
      | returned v => exact same _
    · exact same _

end

theorem bound (loc : Coordinate) (which : String) (v : Value) :
    C.Same (Run.bound loc which v) (Run.bound loc which v) := by
  cases v with
  | int n => exact same n
  | _ => exact C.fail _ _

/-! ## Edits -/

/-- An edit finds the same element in both runs and puts the same change to the host, here and in
the two edits that follow. -/
theorem setValue (ctx : Context) (loc : Coordinate) (v : Value) :
    C.Same (Run.setValue ctx loc v) (Run.setValue ctx loc v) :=
  bindSame (target ctx loc _) fun _ => C.edit loc _

theorem deleteElement (ctx : Context) (loc : Coordinate) :
    C.Same (Run.deleteElement ctx loc) (Run.deleteElement ctx loc) :=
  bindSame (target ctx loc _) fun _ => C.edit loc _

theorem mergeValue (ctx : Context) (loc : Coordinate) (v : Value) :
    C.Same (Run.mergeValue ctx loc v) (Run.mergeValue ctx loc v) :=
  bindSame (target ctx loc _) fun _ => C.edit loc _

/-- A field is written into the value of the element, which the hosts agree in. -/
theorem writeField (ctx : Context) (loc : Coordinate) (path : List Segment) (v : Value) :
    C.Same (Run.writeField C.left.settings.fields ctx loc path v)
      (Run.writeField C.right.settings.fields ctx loc path v) := by
  rw [C.fields]
  refine bindSame (target ctx loc _) fun id => C.get fun m₁ m₂ hhost _ _ => ?_
  rw [hhost]
  exact bindSame (ofExcept loc .path _) fun _ => C.edit loc _

/-! ## Selections and inclusions -/

/-- A selection visits the same elements in both runs, if the body is alike for every context
inside it. -/
theorem forMatches (loc : Coordinate) (ctx : Context) {body₁ body₂ : Context → Run Unit} :
    ∀ ids : List ElementId,
    (∀ inner : Context, inner.selected = true → C.Same (body₁ inner) (body₂ inner)) →
    C.Same (Run.forMatches loc ctx body₁ ids) (Run.forMatches loc ctx body₂ ids)
  | [], _ => same _
  | _ :: rest, hbody => C.get fun m₁ m₂ hhost _ _ => by
    rw [hhost]
    exact bindSame (ofExcept loc .host _) fun _ => bindSame (hbody _ rfl) fun _ =>
      forMatches loc ctx rest hbody

/-- What a mixin has declared is handed over alike, to environments that correspond. -/
theorem exportBindings (params : List Param) {env₁ env₂ : Environment}
    (henv : C.envs env₁ env₂) : ∀ declared : Table Value,
    C.Same (Run.exportBindings params env₁ declared) (Run.exportBindings params env₂ declared)
  | [] => same _
  | (name, v) :: rest => by
    have hrest := exportBindings params henv rest
    unfold Run.exportBindings
    split
    · exact bindSame (C.declare henv name v) fun _ => hrest
    · exact hrest

/-- A mixin is included alike if it is entered alike. -/
theorem includeMixin {enter₁ enter₂ : Enter} {env₁ env₂ : Environment} (henv : C.envs env₁ env₂)
    {ctx : Context} {loc : Coordinate} {name : String} {mixin₁ mixin₂ : Routine}
    {args₁ args₂ : List Argument} (hparams : mixin₁.params = mixin₂.params)
    (henter : ∀ {frame₁ frame₂ : Environment}, C.envs frame₁ frame₂ →
      C.Same (enter₁ name mixin₁ args₁ frame₁ ctx loc) (enter₂ name mixin₂ args₂ frame₂ ctx loc)) :
    C.Same (Run.includeMixin enter₁ env₁ ctx loc name mixin₁ args₁)
      (Run.includeMixin enter₂ env₂ ctx loc name mixin₂ args₂) := by
  unfold Run.includeMixin
  rw [hparams]
  refine C.bind (C.child henv) fun _ _ hframe => ?_
  exact bindSame (henter (C.envs_of_fresh hframe)) fun _ =>
    C.declared (Run.exportBindings mixin₂.params env₁) (Run.exportBindings mixin₂.params env₂)
      hframe (exportBindings mixin₂.params henv)

/-! ## Bodies -/

section

variable {env₁ env₂ : Environment} (henv : C.envs env₁ env₂) {enter₁ enter₂ : Enter}
  {ctx : Context} {body₁ body₂ : List Statement}
  (hblock : ∀ {scope₁ scope₂ : Environment}, C.envs scope₁ scope₂ →
    C.Same (Run.runBlock C.left enter₁ scope₁ ctx body₁)
      (Run.runBlock C.right enter₂ scope₂ ctx body₂))

include henv hblock

/-- The bodies of loops over numbers run alike if their blocks do, in any scopes that
correspond. -/
theorem rangeBody (name : String) (n : Int64) :
    C.Same (Run.rangeBody C.left enter₁ env₁ ctx name body₁ n)
      (Run.rangeBody C.right enter₂ env₂ ctx name body₂ n) :=
  inChild henv fun hscope => bindSame (C.declare hscope name (.int n)) fun _ => hblock hscope

theorem eachBody (key : Option String) (name : String) (k v : Value) :
    C.Same (Run.eachBody C.left enter₁ env₁ ctx key name body₁ k v)
      (Run.eachBody C.right enter₂ env₂ ctx key name body₂ k v) :=
  inChild henv fun hscope => by
    have hrest := bindSame (C.declare hscope name v) fun _ => hblock hscope
    cases key with
    | none => exact hrest
    | some key => exact bindSame (C.declare hscope key k) fun _ => hrest

/-- So do the bodies of selections. -/
theorem visitBody :
    C.Same (Run.visitBody C.left enter₁ env₁ body₁ ctx)
      (Run.visitBody C.right enter₂ env₂ body₂ ctx) :=
  inChild henv fun hscope => bindSame (hblock hscope) fun _ => same _

end

/-! ## Statements -/

section

variable {enter₁ enter₂ : Enter} (he : C.Enters enter₁ enter₂) {env₁ env₂ : Environment}
  (henv : C.envs env₁ env₂) (ctx : Context)

include he henv

/-- Plain statements run alike. -/
theorem runPlain : ∀ s : Statement, s.Plain C.functional →
    C.Same (Run.runStatement C.left enter₁ env₁ ctx s) (Run.runStatement C.right enter₂ env₂ ctx s)
  | .declare _ name e, h =>
    bindSame (evaluate he henv ctx e h) fun v => bindSame (C.declare henv name v) fun _ => same _
  | .ret _ none, _ => same _
  | .ret _ (some e), h => bindSame (evaluate he henv ctx e h) fun _ => same _
  | .set loc e, h =>
    bindSame (evaluate he henv ctx e h) fun v => bindSame (setValue ctx loc v) fun _ => same _
  | .delete loc, _ => bindSame (deleteElement ctx loc) fun _ => same _
  | .merge loc e, h =>
    bindSame (evaluate he henv ctx e h) fun v => bindSame (mergeValue ctx loc v) fun _ => same _
  | .field loc key indexer e, h =>
    bindSame (ofExcept loc id (Run.fieldPath key indexer)) fun path =>
      bindSame (evaluate he henv ctx e h) fun v =>
        bindSame (writeField ctx loc path v) fun _ => same _
  | .expression _ e, h => bindSame (evaluate he henv ctx e h) fun _ => same _
  | .error loc fault, _ => C.fail loc (.fault fault)

variable {body₁ body₂ : List Statement}
  (hblock : ∀ {scope₁ scope₂ : Environment}, C.envs scope₁ scope₂ →
    C.Same (Run.runBlock C.left enter₁ scope₁ ctx body₁)
      (Run.runBlock C.right enter₂ scope₂ ctx body₂))

include hblock

/-- Loops run alike whose bodies do. -/
theorem runForRange (loc : Coordinate) (name : String) {first last : Expr} (end_ : RangeEnd)
    (hfirst : first.Every C.functional) (hlast : last.Every C.functional) :
    C.Same (Run.runStatement C.left enter₁ env₁ ctx (.forRange loc name first last end_ body₁))
      (Run.runStatement C.right enter₂ env₂ ctx (.forRange loc name first last end_ body₂)) :=
  bindSame (evaluate he henv ctx first hfirst) fun _ => bindSame (bound _ _ _) fun _ =>
    bindSame (evaluate he henv ctx last hlast) fun _ => bindSame (bound _ _ _) fun _ =>
      forRange loc (rangeBody henv hblock name) _ _ C.budgets_start

/-- What there is to go through is the same value in both runs, or both fail for it. -/
theorem runForEach (loc : Coordinate) (key : Option String) (name : String) {iterable : Expr}
    (hiterable : iterable.Every C.functional) :
    C.Same (Run.runStatement C.left enter₁ env₁ ctx (.forEach loc key name iterable body₁))
      (Run.runStatement C.right enter₂ env₂ ctx (.forEach loc key name iterable body₂)) :=
  bindSame (evaluate he henv ctx iterable hiterable) fun v => by
    cases Run.entriesOf? v with
    | none => exact C.fail _ _
    | some entries => exact forEach loc (eachBody henv hblock key name) entries C.budgets_start

/-- Here the body is run in the environment of the loop, without a frame of its own. -/
theorem runWhileTrue (loc : Coordinate) {condition : Expr}
    (hcondition : condition.Every C.functional) :
    C.Same (Run.runStatement C.left enter₁ env₁ ctx (.whileTrue loc condition body₁))
      (Run.runStatement C.right enter₂ env₂ ctx (.whileTrue loc condition body₂)) :=
  whileTrue loc (evaluate he henv ctx condition hcondition) (hblock henv) C.budgets_start

/-- Branches run alike of which the first and the others do. -/
theorem runWhen (loc : Coordinate) {condition : Expr} (hcondition : condition.Every C.functional)
    {rest₁ rest₂ : Branches}
    (hrest : C.Same (Run.runBranches C.left enter₁ env₁ ctx rest₁)
      (Run.runBranches C.right enter₂ env₂ ctx rest₂)) :
    C.Same (Run.runBranches C.left enter₁ env₁ ctx (.when loc condition body₁ rest₁))
      (Run.runBranches C.right enter₂ env₂ ctx (.when loc condition body₂ rest₂)) :=
  bindSame (evaluate he henv ctx condition hcondition) fun v => by
    split
    · exact inChild henv hblock
    · exact hrest
    · exact C.fail _ _

end

/-- Blocks run alike of which the first statement and the others do. -/
theorem runCons {enter₁ enter₂ : Enter} {env₁ env₂ : Environment} {ctx : Context}
    {s₁ s₂ : Statement} {rest₁ rest₂ : List Statement}
    (hs : C.Same (Run.runStatement C.left enter₁ env₁ ctx s₁)
      (Run.runStatement C.right enter₂ env₂ ctx s₂))
    (hrest : C.Same (Run.runBlock C.left enter₁ env₁ ctx rest₁)
      (Run.runBlock C.right enter₂ env₂ ctx rest₂)) :
    C.Same (Run.runBlock C.left enter₁ env₁ ctx (s₁ :: rest₁))
      (Run.runBlock C.right enter₂ env₂ ctx (s₂ :: rest₂)) :=
  bindSame hs fun flow => by
    cases flow with
    | next => exact hrest
    | returned v => exact same _

/-! ## Parameters -/

/-- Parameters are bound alike in frames that correspond: to the same values, or to defaults that
are evaluated alike. -/
theorem bindSlots {evaluate₁ evaluate₂ : Expr → Run Value} {frame₁ frame₂ : Environment}
    (hframe : C.envs frame₁ frame₂) (callee : String) (loc : Coordinate)
    (h : ∀ e : Expr, e.Every C.functional → C.Same (evaluate₁ e) (evaluate₂ e)) :
    ∀ slots : List (Param × Option Value), Param.EveryIn C.functional (slots.map Prod.fst) →
    C.Same (Run.bindSlots evaluate₁ callee frame₁ loc slots)
      (Run.bindSlots evaluate₂ callee frame₂ loc slots)
  | [], _ => same _
  | (⟨_, name, default⟩, filled) :: rest, hslots => by
    have hrest := bindSlots hframe callee loc h rest hslots.2
    have hbind : ∀ v, C.Same
        (Run.declare frame₁ name v >>= fun _ => Run.bindSlots evaluate₁ callee frame₁ loc rest)
        (Run.declare frame₂ name v >>= fun _ => Run.bindSlots evaluate₂ callee frame₂ loc rest) :=
      fun v => bindSame (C.declare hframe name v) fun _ => hrest
    have hdefault := hslots.1
    cases filled with
    | some v => exact hbind v
    | none =>
      cases default with
      | some e => exact bindSame (h e hdefault) fun v => hbind v
      | none => exact C.fail _ _

/-- Arguments that fill the same slots are bound alike. -/
theorem bindArguments {enter₁ enter₂ : Enter} (he : C.Enters enter₁ enter₂)
    {frame₁ frame₂ : Environment} (hframe : C.envs frame₁ frame₂) (ctx : Context)
    (callee : String) {params : List Param} (hparams : Param.EveryIn C.functional params)
    {args₁ args₂ : List Argument}
    (hargs : ∀ slots : Slots, slots.fillAll callee args₁ = slots.fillAll callee args₂)
    (loc : Coordinate) :
    C.Same
      (Run.bindArguments (Run.evaluate C.left enter₁ frame₁ ctx) callee params args₁ frame₁ loc)
      (Run.bindArguments (Run.evaluate C.right enter₂ frame₂ ctx) callee params args₂ frame₂
        loc) := by
  unfold Run.bindArguments
  rw [hargs]
  cases hfill : (Slots.blank params).fillAll callee args₂ with
  | error e => exact C.fail _ _
  | ok slots =>
    refine bindSlots hframe callee loc (evaluate he hframe ctx) slots.filled ?_
    -- The slots are those of the parameters, whatever fills them.
    rw [Slots.params_of_fillAll hfill, Slots.params_blank]
    exact hparams

end Comparison

/-! ## Executions -/

/-- How the execution of a patch ends whose statements end in this way. -/
def Patch.outcome : EStateM.Result Halt Machine Flow → Except Halt Report × Host
  | .ok _ m => (.ok m.report, m.host)
  | .error halt m => (.error halt, m.host)

/-- An execution is the run of its statements on a new machine, with the host and the report taken
out. -/
theorem Patch.execute_eq_outcome (p : Provision) (patch : Patch) (h : Host) :
    patch.execute p h = outcome (Run.runBlock p
      (Run.enterWithin p (p.settings.limits.maxCallDepth + 1)) (Machine.start h).1
      ⟨Host.root, false, [Host.root]⟩ patch.statements (Machine.start h).2) := by
  rfl

end Graft
