import Graft.Proofs.Run.Change

/-!
The interpreter keeps to its terms.

Every function of the interpreter makes only changes that its terms admit, if the
statements it is given are among those of the terms and the frames it binds in are too.
The proof follows the recursion of the interpreter: one induction over the structure of
expressions and statements, with a parameter for the routines that calls enter, and one
over the number of levels that calls may nest. The loops have inductions of their own over
what they go through.

Evaluation needs nothing of its environment, because it binds names only in frames that it
has opened. Declarations, `while` loops and inclusions bind in the innermost frame of their
environment, and no other statements do.
-/

set_option autoImplicit false

namespace Graft

/-- Where account is kept, the element that a context offers to edits is in `X`, and so is the
scope of its selections if that is not the root. -/
def Context.Admitted (t : Terms) (X : ElementId → Prop) (ctx : Context) : Prop :=
  t.accounted → ctx.selected = true ∨ ctx.element ≠ Host.root → X ctx.element

/-- The element of an admitted context may be the scope of a selection. -/
theorem Context.Admitted.scope {t : Terms} {X : ElementId → Prop} {ctx : Context}
    (hctx : ctx.Admitted t X) {m : Machine} (hm : m.Sound t X) : m.Scope t ctx.element := by
  intro haccounted
  by_cases hroot : ctx.element = Host.root
  · exact .inl hroot
  · exact .inr (hm.matched _ (hctx haccounted (.inr hroot)))

/-- `P` holds of the closures among arguments. -/
def Argument.Every (P : Closure → Prop) (args : List Argument) : Prop :=
  ∀ arg ∈ args, ∀ c : Closure, arg.actual = .closure c → P c

/-- A closure consists of statements that `P` holds of. -/
def Closure.Every (P : Statement → Prop) (c : Closure) : Prop :=
  (Routine.mk c.params c.body).Every P

/-- What enters routines keeps to the terms. -/
def Enter.Keeps (t : Terms) (enter : Enter) : Prop :=
  ∀ {X : ElementId → Prop} (callee : String) {routine : Routine} (args : List Argument)
    {frame : Environment} {ctx : Context} (loc : Coordinate),
    routine.Every t.statements → t.frames frame.innermost → ctx.Admitted t X →
    Makes t X (enter callee routine args frame ctx loc) fun _ => True

namespace Argument

variable {P : Closure → Prop}

theorem Every.nil : Every P [] := fun _ h => by cases h

/-- An argument that is a value adds no closure. -/
theorem Every.value {args : List Argument} (h : Every P args) (loc : Coordinate)
    (name : Option String) (v : Value) : Every P (⟨loc, name, .value v⟩ :: args) := by
  intro arg harg c hc
  rcases List.mem_cons.mp harg with rfl | harg
  · cases hc
  · exact h arg harg c hc

/-- An argument that is a closure adds this one. -/
theorem Every.closure {args : List Argument} (h : Every P args) {c : Closure} (hc : P c)
    (loc : Coordinate) (name : Option String) : Every P (⟨loc, name, .closure c⟩ :: args) := by
  intro arg harg c' hc'
  rcases List.mem_cons.mp harg with rfl | harg
  · cases hc'
    exact hc
  · exact h arg harg c' hc'

theorem Every.tail {arg : Argument} {args : List Argument} (h : Every P (arg :: args)) :
    Every P args :=
  fun arg harg => h arg (List.mem_cons_of_mem _ harg)

theorem Every.imp {Q : Closure → Prop} {args : List Argument} (h : Every P args)
    (hQ : ∀ c, P c → Q c) : Every Q args :=
  fun arg harg c hc => hQ c (h arg harg c hc)

end Argument

/-- The closures that a builtin sorts out are those of its arguments. -/
theorem Inputs.mem_closures_ofArguments {P : Closure → Prop} {callee : String} :
    ∀ {args : List Argument} {inputs : Inputs}, Inputs.ofArguments callee args = .ok inputs →
      Argument.Every P args → ∀ c ∈ inputs.closures, P c
  | [], inputs, h, _, c, hc => by
    cases h
    cases hc
  | arg :: rest, inputs, h, hargs, c, hc => by
    simp only [Inputs.ofArguments] at h
    split at h
    · cases h
    · cases hrest : Inputs.ofArguments callee rest with
      | error e =>
        rw [hrest] at h
        cases h
      | ok others =>
        have ih := Inputs.mem_closures_ofArguments hrest hargs.tail
        rw [hrest] at h
        cases ha : arg.actual with
        | value v =>
          simp only [ha] at h
          cases h
          exact ih c hc
        | closure c' =>
          simp only [ha] at h
          cases h
          -- The closure of this argument, or one of the others.
          rcases List.mem_cons.mp hc with rfl | hc
          · exact hargs arg List.mem_cons_self _ ha
          · exact ih c hc

/-- The closure that a method asks for is one of those that were sorted out. -/
theorem Inputs.mem_of_onlyClosure {method : String} {inputs : Inputs} {c : Closure}
    (h : inputs.onlyClosure method = .ok c) : c ∈ inputs.closures := by
  simp only [Inputs.onlyClosure] at h
  split at h
  · rename_i hclosures
    cases h
    rw [hclosures]
    exact List.mem_singleton_self _
  · cases h

namespace Run

/-- The body of a loop over a range, for one number. -/
def rangeBody (p : Provision) (enter : Enter) (env : Environment) (ctx : Context) (name : String)
    (body : List Statement) (n : Int64) : Run Flow := do
  let scope ← child env
  declare scope name (.int n)
  runBlock p enter scope ctx body

/-- Binds the variables of a loop over entries in a frame of their own. -/
def eachScope (env : Environment) (key : Option String) (name : String) (k v : Value) :
    Run Environment := do
  let scope ← child env
  match key with
  | some key => declare scope key k
  | none => pure ()
  declare scope name v
  return scope

/-- The body of a loop over entries, for one entry. -/
def eachBody (p : Provision) (enter : Enter) (env : Environment) (ctx : Context)
    (key : Option String) (name : String) (body : List Statement) (k v : Value) : Run Flow := do
  let scope ← child env
  match key with
  | some key => declare scope key k
  | none => pure ()
  declare scope name v
  runBlock p enter scope ctx body

/-- The body of a selection, for one element. -/
def visitBody (p : Provision) (enter : Enter) (env : Environment) (body : List Statement)
    (ctx : Context) : Run Unit := do
  let scope ← child env
  let _ ← runBlock p enter scope ctx body

end Run

/-- What a field statement does once it is known which element it writes to. -/
def Run.writeInto (conventions : FieldConventions) (loc : Coordinate) (path : List Segment)
    (v : Value) (id : ElementId) : Run Unit := fun m =>
  (Run.ofExcept loc .path
      (Value.writeAt conventions v (m.host.get id).value.orObject path) >>= fun changed =>
    Run.edit loc fun h => h.set id changed) m

/-- A field statement finds the element that it is meant for, and then writes into its value. -/
theorem Run.writeField_eq (conventions : FieldConventions) (ctx : Context) (loc : Coordinate)
    (path : List Segment) (v : Value) :
    Run.writeField conventions ctx loc path v =
      Run.target ctx loc .fieldStatement >>= Run.writeInto conventions loc path v :=
  rfl

/-- A selection that is not to run is only counted. -/
theorem Run.select_unwanted {p : Provision} {attributes : List Attribute} (ctx : Context)
    (loc : Coordinate) (selector : Selector) (body : Context → Run Unit)
    (h : ¬ isWanted p attributes ctx.selected = true) (m : Machine) :
    select p ctx loc attributes selector body m = .ok () m.skipped := by
  rw [select, if_neg h]
  rfl

/-- A selection that is to run is counted, resolves its selector, and runs its body against
what that yields. -/
theorem Run.select_wanted {p : Provision} {attributes : List Attribute} (ctx : Context)
    (loc : Coordinate) (selector : Selector) (body : Context → Run Unit)
    (h : isWanted p attributes ctx.selected = true) (m : Machine) :
    select p ctx loc attributes selector body m =
      match selector.resolve p ctx.element m.host with
      | (.error e, host) => fail selector.loc (.selector e) { m.ran with host }
      | (.ok ids, host) => forMatches loc ctx body ids (m.ran.yielded host ids) := by
  rw [select, if_pos h]
  -- Behind the count, what happens depends only on what the selector gives.
  have hstep : ∀ r : Except SelectorError (List ElementId) × Host,
      (set { m.ran with host := r.2 } >>= fun _ =>
        ofExcept selector.loc .selector r.1 >>= fun ids =>
        note (fun r => { r with matched := ids.reverse ++ r.matched }) >>= fun _ =>
        forMatches loc ctx body ids) m.ran =
      match r with
      | (.error e, host) => fail selector.loc (.selector e) { m.ran with host }
      | (.ok ids, host) => forMatches loc ctx body ids (m.ran.yielded host ids) := by
    rintro ⟨result, host⟩
    cases result with
    | error e => rfl
    | ok ids => rfl
  exact hstep _

/-- An element that can be edited is visited, and then the others are. -/
theorem Run.forMatches_cons {loc : Coordinate} {ctx : Context} {body : Context → Run Unit}
    {id : ElementId} {rest : List ElementId} {m : Machine}
    (hid : m.host.checkEditable id = .ok ()) :
    forMatches loc ctx body (id :: rest) m =
      (body ⟨id, true, id :: rest ++ ctx.held⟩ >>= fun _ => forMatches loc ctx body rest) m := by
  have hcheck : (ofExcept loc .host (m.host.checkEditable id) : Run Unit) m = .ok () m := by
    rw [hid]
    rfl
  exact bind_ok hcheck

namespace Makes

variable {α : Type} {t : Terms} {X : ElementId → Prop} {enter : Enter}

/-! ## Going through lists -/

/-- Going through a list makes only changes that the terms admit if each step does. The induction
is on the list, here and for the other ways to go through one. -/
theorem mapM {f : α → Run Value} (h : ∀ a, Makes t X (f a) fun _ => True) :
    ∀ items : List α, Makes t X (items.mapM f) fun _ => True
  | [] => by
    rw [List.mapM_nil]
    exact pure trivial
  | a :: rest => by
    rw [List.mapM_cons]
    exact (h a).bind fun _ _ => (mapM h rest).bind fun _ _ => pure trivial

theorem filterAuxM {f : α → Run Bool} (h : ∀ a, Makes t X (f a) fun _ => True) :
    ∀ items kept : List α, Makes t X (items.filterAuxM f kept) fun _ => True
  | [], _ => pure trivial
  | a :: rest, _ => (h a).bind fun _ _ => filterAuxM h rest _

/-- What a filter keeps is in its answer only, and so is what it has kept so far. -/
theorem filterM {f : α → Run Bool} (h : ∀ a, Makes t X (f a) fun _ => True) (items : List α) :
    Makes t X (items.filterM f) fun _ => True :=
  (filterAuxM h items []).bind fun _ _ => pure trivial

/-- The search ends at the first item that the test holds of. -/
theorem anyM {f : α → Run Bool} (h : ∀ a, Makes t X (f a) fun _ => True) :
    ∀ items : List α, Makes t X (items.anyM f) fun _ => True
  | [] => pure trivial
  | a :: rest => (h a).bind fun b _ => by
    cases b with
    | true => exact pure trivial
    | false => exact anyM h rest

/-- Here it ends at the first that the test does not hold of. -/
theorem allM {f : α → Run Bool} (h : ∀ a, Makes t X (f a) fun _ => True) :
    ∀ items : List α, Makes t X (items.allM f) fun _ => True
  | [] => pure trivial
  | a :: rest => (h a).bind fun b _ => by
    cases b with
    | true => exact allM h rest
    | false => exact pure trivial

/-! ## Calls -/

/-- A subscript looks into a value, which changes nothing, whether it finds something or fails. -/
theorem subscript (loc : Coordinate) (target index : Value) :
    Makes t X (Run.subscript loc target index) fun _ => True := by
  unfold Run.subscript
  split
  · split
    · exact pure trivial
    · exact fail _ _
  · split
    · exact pure trivial
    · exact fail _ _
  · exact fail _ _

/-- The element that an edit is meant for is that of the context, which is then selected. -/
theorem target (ctx : Context) (loc : Coordinate) (site : EditSite) :
    Makes t X (Run.target ctx loc site) fun id => ctx.selected = true ∧ id = ctx.element := by
  unfold Run.target
  split
  · rename_i h
    exact pure ⟨h, rfl⟩
  · exact fail _ _

/-- A builtin goes on with its arguments sorted, or fails at the first that is named. -/
theorem sorted {name : String} {args : List Argument} {f : Inputs → Run α} {Q : α → Prop}
    (hf : ∀ inputs, Inputs.ofArguments name args = .ok inputs → Makes t X (f inputs) Q) :
    Makes t X (match Inputs.ofArguments name args with
      | .ok inputs => Pure.pure inputs >>= f
      | .error (loc, cause) => Run.fail loc cause >>= f) Q := by
  cases h : Inputs.ofArguments name args with
  | ok inputs => exact hf inputs h
  | error e => exact fail e.1 e.2

/-- A closure runs its statements in a frame of its own, inside the environment that it was written
in. That frame is new, so the terms admit it, whatever the environment is. -/
theorem callClosure (he : enter.Keeps t) {ctx : Context} (hctx : ctx.Admitted t X)
    (loc : Coordinate) {c : Closure} (hc : c.Every t.statements)
    (values : List Value) :
    Makes t X (Run.callClosure enter ctx loc c values) fun _ => True :=
  (child c.env).bind fun _ hframe =>
    (he "closure" _ loc hc hframe hctx).bind fun _ _ => pure trivial

/-- A method with a closure does what the closure does for the items that it comes to. -/
theorem callClosureMethod (m : ClosureMethod) {f : Value → Run Value}
    (hf : ∀ v, Makes t X (f v) fun _ => True) (items : List Value) :
    Makes t X (Run.callClosureMethod m f items) fun _ => True := by
  have htest : ∀ v, Makes t X (do return (← f v).isTruthy) fun _ => True :=
    fun v => (hf v).bind fun _ _ => pure trivial
  cases m with
  | map => exact (mapM hf items).bind fun _ _ => pure trivial
  | filter => exact (filterM htest items).bind fun _ _ => pure trivial
  | any => exact (anyM htest items).bind fun _ _ => pure trivial
  | all => exact (allM htest items).bind fun _ _ => pure trivial

/-- A builtin looks at values and at the element of the context. It has an answer or fails, and
changes nothing. -/
theorem callBuiltin (ctx : Context) (loc : Coordinate) (name : String) (args : List Argument) :
    Makes t X (Run.callBuiltin ctx loc name args) fun _ => True := by
  refine sorted fun inputs _ => ?_
  cases Builtin.named? name with
  | none => exact fail _ _
  | some b =>
    refine (ofExcept (Q := fun _ => True) loc id fun _ _ => trivial).bind fun values _ => ?_
    refine get fun m _ => ?_
    cases b.aboutElement? (m.host.get ctx.element) with
    | some v => exact (target ctx loc _).bind fun _ _ => pure trivial
    | none => exact ofExcept loc id fun _ _ => trivial

/-- A method changes nothing by itself. The closure that it calls is one of its arguments, so its
statements are among those of the terms. -/
theorem callMethod (he : enter.Keeps t) {ctx : Context} (hctx : ctx.Admitted t X)
    (loc : Coordinate) (name : String) (receiver : Value) {args : List Argument}
    (hargs : Argument.Every (Closure.Every t.statements) args) :
    Makes t X (Run.callMethod enter ctx loc name receiver args) fun _ => True := by
  refine sorted fun inputs hinputs => ?_
  cases ClosureMethod.named? name with
  | some m =>
    refine (ofExcept (Q := fun c => c ∈ inputs.closures) loc id
      fun c hc => Inputs.mem_of_onlyClosure hc).bind fun c hmem => ?_
    have hc := Inputs.mem_closures_ofArguments hinputs hargs c hmem
    refine (ofExcept (Q := fun _ => True) loc id fun _ _ => trivial).bind fun items _ => ?_
    exact callClosureMethod m (fun v => callClosure he hctx loc hc [v]) items
  | none =>
    cases Method.named? name with
    | some m => exact ofExcept loc id fun _ _ => trivial
    | none => exact fail _ _

/-- A function that is found by its name keeps to the terms. -/
theorem every_of_function {m : Machine} (hm : m.Sound t X) {name : String} {f : Routine}
    (hf : (Table.get? m.functions name).or (t.provision.registry.function? name) = some f) :
    f.Every t.statements := by
  rcases Option.or_eq_some_iff.mp hf with hf | ⟨_, hf⟩
  · exact hm.functions hf
  · exact t.registry.functions hf

/-- So does a mixin, where mixins are included. -/
theorem every_of_mixin (hincludes : Includes t.statements) {m : Machine} (hm : m.Sound t X)
    {name : String} {mixin : Routine}
    (hf : (Table.get? m.mixins name).or (t.provision.registry.mixin? name) = some mixin) :
    mixin.Every t.statements := by
  rcases Option.or_eq_some_iff.mp hf with hf | ⟨_, hf⟩
  · exact hm.mixins hincludes hf
  · exact t.registry.mixins hincludes hf

/-- A call enters a function in a new frame, which the terms admit, or means a builtin. A function
comes from the machine or from the registry, and its statements are known in both cases. -/
theorem call (he : enter.Keeps t) (env : Environment) {ctx : Context} (hctx : ctx.Admitted t X)
    (loc : Coordinate) (name : String) (receiver : Option Value) {args : List Argument}
    (hargs : Argument.Every (Closure.Every t.statements) args) :
    Makes t X (Run.call t.provision enter env ctx loc name receiver args) fun _ => True := by
  refine get fun m hm => ?_
  cases hf : (Table.get? m.functions name).or (t.provision.registry.function? name) with
  | none =>
    cases receiver with
    | some v => exact callMethod he hctx loc name v hargs
    | none => exact callBuiltin ctx loc name args
  | some f =>
    have hroutine := every_of_function hm hf
    exact (child env.globalScope).bind fun frame hframe =>
      (he name _ loc hroutine hframe hctx).bind fun _ _ => pure trivial

/-! ## Expressions -/

mutual

/-- **Expressions.** In any environment, evaluation makes only changes that the terms admit: it
binds nothing in the environment, and all that it runs are routines, entered in frames of their
own. The induction is on the structure of expressions. -/
theorem evaluate (he : enter.Keeps t) (env : Environment) {ctx : Context}
    (hctx : ctx.Admitted t X) : ∀ e : Expr, e.Every t.statements →
    Makes t X (Run.evaluate t.provision enter env ctx e) fun _ => True
  | .literal _ _, _ => pure trivial
  | .variable loc name, _ => get fun m _ => by
    cases env.findInward? m.frames name with
    | some v => exact pure trivial
    | none => exact fail _ _
  | .localVariable loc name, _ => get fun m _ => by
    cases env.findOutward? m.frames name with
    | some v => exact pure trivial
    | none => exact fail _ _
  | .unary loc op operand, h =>
    (evaluate he env hctx operand h).bind fun v _ => ofExcept loc .operator fun _ _ => trivial
  | .binary loc op left right, h =>
    (evaluate he env hctx left h.1).bind fun a _ => by
      split
      · exact pure trivial
      · exact (evaluate he env hctx right h.2).bind fun b _ =>
          ofExcept loc .operator fun _ _ => trivial
  | .subscript loc target index, h =>
    (evaluate he env hctx target h.1).bind fun a _ =>
      (evaluate he env hctx index h.2).bind fun b _ => subscript loc a b
  | .call loc name args, h =>
    (evaluateArgs he env hctx args h).bind fun _ hargs =>
      call he env hctx loc name none (hargs.imp fun _ hc => hc.1)
  | .memberCall loc target name args, h =>
    (evaluate he env hctx target h.1).bind fun receiver _ =>
      (evaluateArgs he env hctx args h.2).bind fun _ hargs =>
        call he env hctx loc name (some receiver) (hargs.imp fun _ hc => hc.1)
  | .ternary _ condition whenTrue whenFalse, h =>
    (evaluate he env hctx condition h.1).bind fun c _ => by
      split
      · exact evaluate he env hctx whenTrue h.2.1
      · exact evaluate he env hctx whenFalse h.2.2
  | .list _ items, h =>
    (evaluateAll he env hctx items h).bind fun _ _ => pure trivial
  | .object _ entries, h =>
    (evaluateEntries he env hctx entries h []).bind fun _ _ => pure trivial
  | .closure loc _ _, _ => fail loc .strayClosure
  | .error loc fault, _ => fail loc (.fault fault)

theorem evaluateAll (he : enter.Keeps t) (env : Environment) {ctx : Context}
    (hctx : ctx.Admitted t X) : ∀ es : List Expr, Expr.EveryIn t.statements es →
    Makes t X (Run.evaluateAll t.provision enter env ctx es) fun _ => True
  | [], _ => pure trivial
  | e :: rest, h =>
    (evaluate he env hctx e h.1).bind fun _ _ =>
      (evaluateAll he env hctx rest h.2).bind fun _ _ => pure trivial

/-- The entries of an object, in their order. What is known of the entries before does not
matter. -/
theorem evaluateEntries (he : enter.Keeps t) (env : Environment) {ctx : Context}
    (hctx : ctx.Admitted t X) : ∀ entries : List Entry, Entry.EveryIn t.statements entries →
    ∀ known : Table Value,
    Makes t X (Run.evaluateEntries t.provision enter env ctx known entries) fun _ => True
  | [], _, _ => pure trivial
  | .mk _ key e :: rest, h, known =>
    (evaluate he env hctx e h.1).bind fun v _ =>
      evaluateEntries he env hctx rest h.2 (Table.insert known key v)

/-- The arguments of a call. The closures among them are those that are written there, and their
scope is the environment of the call. -/
theorem evaluateArgs (he : enter.Keeps t) (env : Environment) {ctx : Context}
    (hctx : ctx.Admitted t X) : ∀ args : List Arg, Arg.EveryIn t.statements args →
    Makes t X (Run.evaluateArgs t.provision enter env ctx args)
      (Argument.Every fun c => c.Every t.statements ∧ c.env = env)
  | [], _ => pure Argument.Every.nil
  | .mk loc name e :: rest, h => by
    have hrest := evaluateArgs he env hctx rest h.2
    have he' := evaluate he env hctx e h.1
    cases e with
    -- A closure is handed over as it is written, with the environment around it.
    | closure _ params body =>
      exact hrest.bind fun _ hargs => pure (hargs.closure ⟨⟨h.1.1, h.1.2⟩, rfl⟩ loc name)
    | _ =>
      exact he'.bind fun v _ => hrest.bind fun _ hargs => pure (hargs.value loc name v)

end

/-! ## Loops -/

/-- A loop over numbers does what its body does, until the numbers are used up, the body returns,
or the budget is spent. The induction is on how many numbers are left. -/
theorem forRange (loc : Coordinate) (limit : Nat) {body : Int64 → Run Flow}
    (hbody : ∀ n, Makes t X (body n) fun _ => True) : ∀ (count : Nat) (first : Int) (budget : Nat),
    Makes t X (Run.forRange loc limit body first count budget) fun _ => True
  | 0, _, _ => pure trivial
  | _ + 1, _, 0 => fail loc (.loopLimit limit)
  | count + 1, first, budget + 1 => (hbody _).bind fun flow _ => by
    cases flow with
    | next => exact forRange loc limit hbody count (first + 1) budget
    | returned v => exact pure trivial

/-- A loop over entries, by induction on the entries that are left. -/
theorem forEach (loc : Coordinate) (limit : Nat) {body : Value → Value → Run Flow}
    (hbody : ∀ k v, Makes t X (body k v) fun _ => True) :
    ∀ (entries : List (Value × Value)) (budget : Nat),
    Makes t X (Run.forEach loc limit body entries budget) fun _ => True
  | [], _ => pure trivial
  | _ :: _, 0 => fail loc (.loopLimit limit)
  | (k, v) :: rest, budget + 1 => (hbody k v).bind fun flow _ => by
    cases flow with
    | next => exact forEach loc limit hbody rest budget
    | returned v => exact pure trivial

/-- A loop with a condition ends with its budget at the latest, which the induction is on. The
condition is evaluated once more when nothing is left of the budget. -/
theorem whileTrue (loc : Coordinate) (limit : Nat) {condition : Run Value} {body : Run Flow}
    (hcondition : Makes t X condition fun _ => True) (hbody : Makes t X body fun _ => True) :
    ∀ budget : Nat, Makes t X (Run.whileTrue loc limit condition body budget) fun _ => True
  | 0 => hcondition.bind fun v _ => by
    split
    · exact fail loc (.loopLimit limit)
    · exact pure trivial
  | budget + 1 => hcondition.bind fun v _ => by
    split
    · refine hbody.bind fun flow _ => ?_
      cases flow with
      | next => exact whileTrue loc limit hcondition hbody budget
      | returned v => exact pure trivial
    · exact pure trivial

/-- A bound is a whole number or fails the loop; nothing changes. -/
theorem bound (loc : Coordinate) (which : String) (v : Value) :
    Makes t X (Run.bound loc which v) fun _ => True := by
  cases v with
  | int n => exact pure trivial
  | _ => exact fail _ _

/-! ## Edits -/

/-- An edit changes the machine if the host accepts it, and not at all otherwise. -/
theorem editAt (loc : Coordinate) {change : Host → Except HostError Host} {id : ElementId}
    {m : Machine} (hm : m.Sound t X) (hid : t.accounted → X id)
    (h : ∀ host, change m.host = .ok host →
      m.host.Edited t.provision.settings.fields t.statements id host) :
    Evolves t m (Run.after (Run.edit loc change) m) := by
  cases hc : change m.host with
  | error e =>
    rw [Run.after_error (Run.edit_error loc change hc)]
    exact .refl m
  | ok host =>
    rw [Run.after_ok (Run.edit_ok loc change hc)]
    exact .change (.edited (h host hc) fun haccounted => hm.matched id (hid haccounted))

/-- The same on every machine, for an edit whose result does not depend on the rest of the
machine. -/
theorem edit (loc : Coordinate) {change : Host → Except HostError Host} {id : ElementId}
    (hid : t.accounted → X id) (h : ∀ h h', change h = .ok h' →
      h.Edited t.provision.settings.fields t.statements id h') :
    Makes t X (Run.edit loc change) fun _ => True :=
  fun m hm => ⟨editAt loc hm hid fun host hc => h m.host host hc, fun _ _ _ => trivial⟩

/-- A set statement may edit only where its context is selected, and then edits the element of the
context, which the terms know. -/
theorem setValue {ctx : Context} (hctx : ctx.Admitted t X) {loc : Coordinate} {e : Expr}
    (hs : t.statements (.set loc e)) (v : Value) :
    Makes t X (Run.setValue ctx loc v) fun _ => True := by
  refine (target ctx loc _).bind fun id hid => ?_
  obtain ⟨hselected, rfl⟩ := hid
  refine edit loc (fun haccounted => hctx haccounted (.inl hselected)) fun h h' hc => ?_
  -- Setting an element to the marker deletes it.
  split at hc
  · exact .delete hs rfl hc
  · rename_i hv
    exact .set hs (Bool.eq_false_iff.mpr hv) hc

theorem deleteElement {ctx : Context} (hctx : ctx.Admitted t X) {loc : Coordinate}
    (hs : t.statements (.delete loc)) : Makes t X (Run.deleteElement ctx loc) fun _ => True := by
  refine (target ctx loc _).bind fun id hid => ?_
  obtain ⟨hselected, rfl⟩ := hid
  exact edit loc (fun haccounted => hctx haccounted (.inl hselected)) fun h h' hc =>
    .delete hs rfl hc

/-- A merge statement edits under the same condition. It deletes the element if what it merges is
the marker. -/
theorem mergeValue {ctx : Context} (hctx : ctx.Admitted t X) {loc : Coordinate} {e : Expr}
    (hs : t.statements (.merge loc e)) (v : Value) :
    Makes t X (Run.mergeValue ctx loc v) fun _ => True := by
  refine (target ctx loc _).bind fun id hid => ?_
  obtain ⟨hselected, rfl⟩ := hid
  refine edit loc (fun haccounted => hctx haccounted (.inl hselected)) fun h h' hc => ?_
  split at hc
  · exact .delete hs rfl hc
  · rename_i hv
    exact .merge hs (Bool.eq_false_iff.mpr hv) hc

/-- A field statement sets the element to what the write at the path has made of its value. If the
write fails, nothing is put to the host. -/
theorem writeField {ctx : Context} (hctx : ctx.Admitted t X) {loc : Coordinate} {key : String}
    {indexer : Option Indexer} {e : Expr} (hs : t.statements (.field loc key indexer e))
    {path : List Segment} (hpath : Run.fieldPath key indexer = .ok path) (v : Value) :
    Makes t X (Run.writeField t.provision.settings.fields ctx loc path v) fun _ => True := by
  rw [Run.writeField_eq]
  refine (target ctx loc _).bind fun id hid => ?_
  obtain ⟨hselected, rfl⟩ := hid
  -- What is written depends on the machine that the edit meets, so this is said of one
  -- machine at a time.
  intro m hm
  refine ⟨?_, fun _ _ _ => trivial⟩
  cases hw : Value.writeAt t.provision.settings.fields v (m.host.get ctx.element).value.orObject
      path with
  | error cause =>
    have hfail : Run.writeInto t.provision.settings.fields loc path v ctx.element m =
        Run.fail loc (.path cause) m := by
      rw [Run.writeInto, hw]
      rfl
    rw [Run.after, hfail]
    exact .refl m
  | ok changed =>
    have hedit : Run.writeInto t.provision.settings.fields loc path v ctx.element m =
        Run.edit loc (fun h => h.set ctx.element changed) m := by
      rw [Run.writeInto, hw]
      rfl
    rw [Run.after, hedit]
    refine editAt loc hm (fun haccounted => hctx haccounted (.inl hselected)) fun host hc => ?_
    exact .field hs hpath hw hc

/-! ## Selections and inclusions -/

/-- A selection runs its body against one element after the other. Each of them may be edited
there, because the selection has yielded it. -/
theorem forMatches (loc : Coordinate) (ctx : Context) {body : Context → Run Unit}
    (hbody : ∀ {inner : Context}, inner.Admitted t X → Makes t X (body inner) fun _ => True) :
    ∀ ids : List ElementId, (∀ id ∈ ids, X id) →
    Makes t X (Run.forMatches loc ctx body ids) fun _ => True
  | [], _ => pure trivial
  | id :: rest, h => get fun _ _ =>
    (ofExcept (Q := fun _ => True) loc .host fun _ _ => trivial).bind fun _ _ =>
      (hbody fun _ _ => h id List.mem_cons_self).bind fun _ _ =>
        forMatches loc ctx hbody rest fun id hid => h id (List.mem_cons_of_mem _ hid)

/-- Once a selection has yielded elements, they may be edited too. -/
theorem yield {loc : Coordinate} {attributes : List Attribute} {selector : Selector}
    {body : List Statement} {scope : ElementId} {ids : List ElementId} {host : Host} {m : Machine}
    (hs : t.statements (.selection loc attributes selector body)) (hm : m.Sound t X)
    (hscope : m.Scope t scope)
    (hr : selector.resolve t.provision scope m.host = (.ok ids, host)) :
    Evolves t m (m.ran.yielded host ids) ∧
      (m.ran.yielded host ids).Sound t (fun id => X id ∨ id ∈ ids) := by
  have hev : Evolves t m (m.ran.yielded host ids) :=
    .trans (.change (.ran hs)) (.change (.yielded (m := m.ran) hs hr hscope))
  refine ⟨hev, (hm.evolves hev).widen fun id hid => ?_⟩
  rcases hid with hid | hid
  · exact List.mem_append_right _ (hm.matched id hid)
  · exact List.mem_append_left _ (List.mem_reverse.mpr hid)

/-- **Selections.** A selection that is not to run is counted as skipped. One that is to run may
add elements, and fails behind them if its selector does. Otherwise its body may edit what has been
yielded, besides what could be edited before. -/
theorem select {ctx : Context} (hctx : ctx.Admitted t X) {loc : Coordinate}
    {attributes : List Attribute} {selector : Selector} {statements : List Statement}
    {body : Context → Run Unit}
    (hs : t.statements (.selection loc attributes selector statements))
    (hbody : ∀ {Y : ElementId → Prop} {inner : Context}, inner.Admitted t Y →
      Makes t Y (body inner) fun _ => True) :
    Makes t X (Run.select t.provision ctx loc attributes selector body) fun _ => True := by
  intro m hm
  refine ⟨?_, fun _ _ _ => trivial⟩
  by_cases hw : Run.isWanted t.provision attributes ctx.selected = true
  · have hresolve := Run.select_wanted ctx loc selector body hw m
    rcases hr : selector.resolve t.provision ctx.element m.host with ⟨result, host⟩
    rw [hr] at hresolve
    cases result with
    | error e =>
      rw [Run.after_error hresolve]
      have hran : Change t m m.ran := .ran hs
      exact .trans (.change hran) (.change (.failed hs hr (hctx.scope (hm.change hran))))
    | ok ids =>
      -- The body may edit what the selection has yielded.
      obtain ⟨hyielded, hm'⟩ := yield hs hm (hctx.scope hm) hr
      have hmatches := forMatches (t := t) loc ctx hbody ids (fun id hid => Or.inr hid) _ hm'
      rw [Run.after, hresolve]
      exact hyielded.trans hmatches.1
  · have hskip := Run.select_unwanted ctx loc selector body hw m
    rw [Run.after_ok hskip]
    exact .change (.skipped hs)

/-- What a mixin hands over is bound in the environment of the block that includes it, in the order
in which it was declared. -/
theorem exportBindings (params : List Param) {env : Environment}
    (henv : t.frames env.innermost) : ∀ declared : Table Value,
    Makes t X (Run.exportBindings params env declared) fun _ => True
  | [] => pure trivial
  | (name, v) :: rest => by
    have hrest := exportBindings params henv rest
    unfold Run.exportBindings
    split
    · exact (declare henv name v).bind fun _ _ => hrest
    · exact hrest

/-- A mixin runs in a new frame, and what it has declared is then bound in the environment of the
inclusion, which the terms have to admit. -/
theorem includeMixin (he : enter.Keeps t) {env : Environment} (henv : t.frames env.innermost)
    {ctx : Context} (hctx : ctx.Admitted t X) (loc : Coordinate) (name : String)
    {mixin : Routine} (hmixin : mixin.Every t.statements) (args : List Argument) :
    Makes t X (Run.includeMixin enter env ctx loc name mixin args) fun _ => True :=
  (child env).bind fun _ hframe =>
    (he name args loc hmixin hframe hctx).bind fun _ _ =>
      get fun _ _ => exportBindings mixin.params henv _

/-! ## Statements -/

/-- What loops, branches and selections run in a frame of its own. -/
theorem inChild {env : Environment} {body : Environment → Run α} {Q : α → Prop}
    (h : ∀ {scope : Environment}, t.frames scope.innermost → Makes t X (body scope) Q) :
    Makes t X (Run.child env >>= body) Q :=
  (child env).bind fun _ hscope => h hscope

/-- The variables of a loop over entries are bound in a new frame, in which the terms admit it. -/
theorem eachScope (env : Environment) (key : Option String) (name : String) (k v : Value) :
    Makes t X (Run.eachScope env key name k v) fun scope => t.frames scope.innermost :=
  inChild fun {scope} hscope => by
    have hrest : Makes t X (Run.declare scope name v >>= fun _ => Pure.pure scope)
        fun scope => t.frames scope.innermost :=
      (declare hscope name v).bind fun _ _ => pure hscope
    cases key with
    | none => exact hrest
    | some key => exact (declare hscope key k).bind fun _ _ => hrest

section

variable (env : Environment) {ctx : Context} {body : List Statement}
  (hblock : ∀ {scope : Environment}, t.frames scope.innermost →
    Makes t X (Run.runBlock t.provision enter scope ctx body) fun _ => True)

include hblock

/-- The body of a loop over numbers, behind the binding of its variable in a new frame. -/
theorem rangeBody (name : String) (n : Int64) :
    Makes t X (Run.rangeBody t.provision enter env ctx name body n) fun _ => True :=
  inChild fun hscope => (declare hscope name (.int n)).bind fun _ _ => hblock hscope

/-- The body of a loop over entries, behind the bindings of its variables. -/
theorem eachBody (key : Option String) (name : String) (k v : Value) :
    Makes t X (Run.eachBody t.provision enter env ctx key name body k v) fun _ => True :=
  inChild fun hscope => by
    have hrest := (declare (X := X) hscope name v).bind fun _ _ => hblock hscope
    cases key with
    | none => exact hrest
    | some key => exact (declare hscope key k).bind fun _ _ => hrest

/-- The body of a selection, whose flow does not leave it. -/
theorem visitBody : Makes t X (Run.visitBody t.provision enter env body ctx) fun _ => True :=
  inChild fun hscope => (hblock hscope).bind fun _ _ => pure trivial

end

mutual

/-- **Statements.** A statement makes only changes that the terms admit if all statements in it are
among theirs. Only declarations, `while` loops and inclusions bind in the environment that they are
run in, so only for them its innermost frame has to be one of the terms. The induction is on the
structure of statements; the routines that calls enter are a parameter. -/
theorem runStatement (he : enter.Keeps t) : ∀ (s : Statement), s.Every t.statements →
    ∀ {X : ElementId → Prop} {env : Environment} {ctx : Context},
    (s.bindsInBlock = true → t.frames env.innermost) → ctx.Admitted t X →
    Makes t X (Run.runStatement t.provision enter env ctx s) fun _ => True
  | .declare _ name e, h, _, env, _, henv, hctx =>
    (evaluate he env hctx e h.2).bind fun v _ =>
      (declare (henv rfl) name v).bind fun _ _ => pure trivial
  | .conditional _ branches, h, _, _, _, _, hctx => runBranches he branches h.2 hctx
  | .ret _ none, _, _, _, _, _, _ => pure trivial
  | .ret _ (some e), h, _, env, _, _, hctx =>
    (evaluate he env hctx e h.2).bind fun _ _ => pure trivial
  | .forRange loc name first last end_ body, h, _, env, _, _, hctx =>
    (evaluate he env hctx first h.2.1).bind fun _ _ => (bound _ _ _).bind fun _ _ =>
      (evaluate he env hctx last h.2.2.1).bind fun _ _ => (bound _ _ _).bind fun _ _ =>
        forRange loc _
          (rangeBody env (fun hscope => runBlock he body h.2.2.2 hscope hctx) name) _ _ _
  | .forEach loc key name iterable body, h, _, env, _, _, hctx =>
    (evaluate he env hctx iterable h.2.1).bind fun v _ => by
      cases Run.entriesOf? v with
      | none => exact fail _ _
      | some entries =>
        exact forEach loc _
          (eachBody env (fun hscope => runBlock he body h.2.2 hscope hctx) key name) entries _
  | .whileTrue loc condition body, h, _, env, _, henv, hctx =>
    whileTrue loc _ (evaluate he env hctx condition h.2.1)
      (runBlock he body h.2.2 (henv rfl) hctx) _
  | .set loc e, h, _, env, _, _, hctx =>
    (evaluate he env hctx e h.2).bind fun v _ =>
      (setValue hctx h.1 v).bind fun _ _ => pure trivial
  | .delete loc, h, _, _, _, _, hctx => (deleteElement hctx h).bind fun _ _ => pure trivial
  | .merge loc e, h, _, env, _, _, hctx =>
    (evaluate he env hctx e h.2).bind fun v _ =>
      (mergeValue hctx h.1 v).bind fun _ _ => pure trivial
  | .field loc key indexer e, h, _, env, _, _, hctx =>
    (ofExcept (Q := fun path => Run.fieldPath key indexer = .ok path) loc id
      fun _ hpath => hpath).bind fun _ hpath =>
        (evaluate he env hctx e h.2).bind fun v _ =>
          (writeField hctx h.1 hpath v).bind fun _ _ => pure trivial
  | .includeMixin loc name args, h, _, env, _, henv, hctx => get fun m hm => by
    have hincludes : Includes t.statements := ⟨loc, name, args, h.1⟩
    cases hf : (Table.get? m.mixins name).or (t.provision.registry.mixin? name) with
    | none => exact fail _ _
    | some mixin =>
      have hmixin := every_of_mixin hincludes hm hf
      exact (evaluateArgs he env hctx args h.2).bind fun args _ =>
        (includeMixin he (henv rfl) hctx loc name hmixin args).bind fun _ _ => pure trivial
  | .selection loc attributes selector body, h, _, env, _, _, hctx =>
    (select hctx h.1 fun hinner =>
      visitBody env fun hscope => runBlock he body h.2 hscope hinner).bind fun _ _ => pure trivial
  | .expression _ e, h, _, env, _, _, hctx =>
    (evaluate he env hctx e h.2).bind fun _ _ => pure trivial
  | .importLibrary loc name, h, _, env, _, _, hctx => by
    have himports : Imports t.statements := ⟨loc, name, h⟩
    simp only [Run.runStatement]
    cases hl : t.provision.registry.library? name with
    | none => exact fail _ _
    | some library =>
      -- A library is entered like a routine, in the global frame.
      have hroutine : (Routine.mk [] library.statements).Every t.statements :=
        ⟨trivial, t.registry.libraries himports hl⟩
      exact (he name [] loc hroutine (t.global himports _) hctx).bind fun _ _ => pure trivial
  | .stage _ _ _, h, _, _, _, _, _ => (modify fun _ _ => .stage h).bind fun _ _ => pure trivial
  | .function loc none _ _, _, _, _, _, _, _ => fail loc .namelessFunction
  | .function _ (some _) _ _, h, _, _, _, _, _ =>
    (modify fun _ _ => .function h).bind fun _ _ => pure trivial
  | .mixin _ _ _ _, h, _, _, _, _, _ =>
    (modify fun _ _ => .mixin h).bind fun _ _ => pure trivial
  | .error loc fault, _, _, _, _, _, _ => fail loc (.fault fault)

/-- Statements in turn, up to the first that returns. -/
theorem runBlock (he : enter.Keeps t) : ∀ (body : List Statement),
    Statement.EveryIn t.statements body →
    ∀ {X : ElementId → Prop} {env : Environment} {ctx : Context}, t.frames env.innermost →
    ctx.Admitted t X → Makes t X (Run.runBlock t.provision enter env ctx body) fun _ => True
  | [], _, _, _, _, _, _ => pure trivial
  | s :: rest, h, _, _, _, henv, hctx =>
    (runStatement he s h.1 (fun _ => henv) hctx).bind fun flow _ => by
      cases flow with
      | next => exact runBlock he rest h.2 henv hctx
      | returned v => exact pure trivial

/-- The first branch whose condition holds is run in a new frame. Conditions are evaluated outside
it. -/
theorem runBranches (he : enter.Keeps t) : ∀ (branches : Branches),
    branches.Every t.statements →
    ∀ {X : ElementId → Prop} {env : Environment} {ctx : Context}, ctx.Admitted t X →
    Makes t X (Run.runBranches t.provision enter env ctx branches) fun _ => True
  | .nothing, _, _, _, _, _ => pure trivial
  | .otherwise body, h, _, _, _, hctx => inChild fun hscope => runBlock he body h hscope hctx
  | .when _ condition body rest, h, _, env, _, hctx =>
    (evaluate he env hctx condition h.1).bind fun v _ => by
      split
      · exact inChild fun hscope => runBlock he body h.2.1 hscope hctx
      · exact runBranches he rest h.2.2 hctx
      · exact fail _ _

end

/-! ## Routines -/

/-- Parameters are bound in the frame of their routine, in turn. A default is evaluated in this
frame, where it finds the parameters before its own. -/
theorem bindSlots {evaluate : Expr → Run Value} (callee : String) {frame : Environment}
    (hframe : t.frames frame.innermost) (loc : Coordinate)
    (h : ∀ e : Expr, e.Every t.statements → Makes t X (evaluate e) fun _ => True) :
    ∀ slots : List (Param × Option Value),
    Param.EveryIn t.statements (slots.map Prod.fst) →
    Makes t X (Run.bindSlots evaluate callee frame loc slots) fun _ => True
  | [], _ => pure trivial
  | (⟨ploc, name, default⟩, filled) :: rest, hslots => by
    have hrest := bindSlots callee hframe loc h rest hslots.2
    have hbind : ∀ v, Makes t X (Run.declare frame name v >>= fun _ =>
        Run.bindSlots evaluate callee frame loc rest) fun _ => True :=
      fun v => (declare hframe name v).bind fun _ _ => hrest
    cases filled with
    | some v => exact hbind v
    | none =>
      cases default with
      | some e => exact (h e hslots.1).bind fun v _ => hbind v
      | none => exact fail _ _

end Makes

/-- Filling slots keeps their parameters. -/
theorem Slots.params_of_put {slots : Slots} {i : Nat} {v : Value}
    {filled : List (Param × Option Value)} (h : slots.put i v = .ok filled) :
    filled.map Prod.fst = slots.filled.map Prod.fst := by
  simp only [Slots.put] at h
  split at h
  · rename_i q hq
    cases h
    obtain ⟨hi, hget⟩ := List.getElem?_eq_some_iff.mp hq
    -- What is put into the slot has the parameter that was there.
    rw [List.map_set]
    apply List.ext_getElem
    · simp
    · intro j hj hj'
      by_cases hij : i = j
      · subst hij
        simp [hget]
      · simp [hij]
  · cases h
  · cases h
    rfl

/-- Filling the slot of one argument keeps the parameters. -/
theorem Slots.params_of_fill {callee : String} {slots slots' : Slots} {arg : Argument}
    (h : slots.fill callee arg = .ok slots') :
    slots'.filled.map Prod.fst = slots.filled.map Prod.fst := by
  simp only [Slots.fill] at h
  split at h
  · cases h
  · rename_i v _
    cases hp : slots.position callee arg.name with
    | error e =>
      rw [hp] at h
      cases h
    | ok i =>
      cases hput : slots.put i v with
      | error e =>
        simp only [hp, hput, bind, Except.bind] at h
        cases h
      | ok filled =>
        simp only [hp, hput, bind, Except.bind] at h
        cases h
        exact params_of_put hput

/-- Filling the slots of all arguments keeps them as well, by induction on the arguments. -/
theorem Slots.params_of_fillAll {callee : String} : ∀ {args : List Argument}
    {slots slots' : Slots}, slots.fillAll callee args = .ok slots' →
    slots'.filled.map Prod.fst = slots.filled.map Prod.fst
  | [], _, _, h => by
    cases h
    rfl
  | arg :: rest, slots, slots', h => by
    simp only [Slots.fillAll] at h
    cases hf : slots.fill callee arg with
    | error e =>
      rw [hf] at h
      cases h
    | ok next =>
      rw [hf] at h
      rw [params_of_fillAll h, params_of_fill hf]

/-- The slots of a routine are those of its parameters. -/
theorem Slots.params_blank (params : List Param) :
    (Slots.blank params).filled.map Prod.fst = params := by
  simp only [Slots.blank, List.map_map]
  exact List.map_id params

/-- Arguments are put into slots before anything is bound, so the machine is the same if they do
not fit. What is then bound is bound in the frame of the routine. -/
theorem Makes.bindArguments {t : Terms} {X : ElementId → Prop} {enter : Enter}
    (he : enter.Keeps t) {params : List Param} (hparams : Param.EveryIn t.statements params)
    {frame : Environment} (hframe : t.frames frame.innermost) {ctx : Context}
    (hctx : ctx.Admitted t X) (callee : String) (args : List Argument) (loc : Coordinate) :
    Makes t X (Run.bindArguments (Run.evaluate t.provision enter frame ctx) callee params args
      frame loc) fun _ => True := by
  unfold Run.bindArguments
  cases hfill : (Slots.blank params).fillAll callee args with
  | error e => exact fail _ _
  | ok slots =>
    refine bindSlots callee hframe loc (evaluate he frame hctx) slots.filled ?_
    rw [Slots.params_of_fillAll hfill, Slots.params_blank]
    exact hparams

/-- **The interpreter keeps to its terms**, however many levels its calls may nest. -/
theorem Run.enterWithin_keeps (t : Terms) : ∀ levels : Nat,
    Enter.Keeps t (Run.enterWithin t.provision levels)
  | 0 => fun _ _ _ _ _ _ _ _ _ => Makes.throw .exhausted
  | levels + 1 => by
    intro callee routine args frame ctx loc hroutine hframe hctx
    have he : Enter.Keeps t (Run.enterWithin t.provision levels) := Run.enterWithin_keeps t levels
    exact Makes.withCall rfl
      ((Makes.bindArguments he hroutine.params hframe hctx callee args loc).bind fun _ _ =>
        Makes.runBlock he routine.body hroutine.body hframe hctx)

end Graft
