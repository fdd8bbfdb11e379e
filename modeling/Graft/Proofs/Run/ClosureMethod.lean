import Graft.Proofs.Run.Aside
import Graft.Proofs.Run.Halting

/-!
Methods with closures, as functions on lists.

A method that goes through a list with a closure runs code for each item, and the code runs where
the items before have been. But a closure holds statements of functions only, so a call of it
opens frames and does nothing else, and a closure does not see frames that were opened behind its
scopes. What it comes to for an item is therefore the same wherever in the list the item stands,
as if the closure was a function.

What the methods do with a function is known: they are the map, the filter and the two
quantifiers of lists. Where the closure halts at an item, the method halts with it, if it comes
that far: the quantifiers stop at the first item that settles them.
-/

set_option autoImplicit false

namespace Graft

namespace ClosureMethod

/-- What a method makes of a list with a function. -/
def ofList (g : Value → Value) (items : List Value) : ClosureMethod → Value
  | map => .list (items.map g)
  | filter => .list (items.filter fun v => (g v).isTruthy)
  | any => .bool (items.any fun v => (g v).isTruthy)
  | all => .bool (items.all fun v => (g v).isTruthy)

/-- The answer that a method has behind these items already, whatever comes next. -/
def settled? (g : Value → Value) (items : List Value) : ClosureMethod → Option Value
  | map => none
  | filter => none
  | any => if items.any fun v => (g v).isTruthy then some (.bool true) else none
  | all => if items.all fun v => (g v).isTruthy then none else some (.bool false)

theorem named?_name (k : ClosureMethod) : named? k.name = some k := by
  cases k <;> decide

end ClosureMethod

namespace Run

variable {α β γ : Type} {m : Machine}

/-! ## Outcomes -/

theorem outcome_bind_ok {x : Run α} {f : α → Run β} {a : α} (h : x.outcome m = .ok a) :
    (x >>= f).outcome m = (f a).outcome (x.after m) := by
  cases hr : x m with
  | ok b m' =>
    rw [outcome, hr] at h
    cases h
    rw [after_ok hr, outcome, bind_ok hr]
    rfl
  | error e m' =>
    rw [outcome, hr] at h
    cases h

theorem outcome_bind_error {x : Run α} {f : α → Run β} {e : Halt} (h : x.outcome m = .error e) :
    (x >>= f).outcome m = .error e := by
  cases hr : x m with
  | ok b m' =>
    rw [outcome, hr] at h
    cases h
  | error e' m' =>
    rw [outcome, hr] at h
    cases h
    rw [outcome, bind_error hr]

/-- An answer that is only changed into another leaves the same machine. -/
theorem after_map (x : Run α) (g : α → β) (m : Machine) :
    (x >>= fun a => pure (g a)).after m = x.after m := by
  cases hr : x m with
  | ok a m' =>
    rw [after_bind_ok _ hr, after_ok hr]
    rfl
  | error e m' => rw [after_error hr, after_error (bind_error hr)]

theorem outcome_map (x : Run α) (g : α → β) (m : Machine) :
    (x >>= fun a => pure (g a)).outcome m = (x.outcome m).map g := by
  cases hx : x.outcome m with
  | ok a =>
    rw [outcome_bind_ok hx]
    rfl
  | error e =>
    rw [outcome_bind_error hx]
    rfl

/-! ## Steady computations -/

/-- The machine behind computations for items in turn, however they end. -/
def afterAll (f : α → Run β) : List α → Machine → Machine
  | [], m => m
  | a :: rest, m => afterAll f rest ((f a).after m)

/-- What a computation comes to does not depend on the items that it was run for before. -/
def Steady (f : α → Run β) (m : Machine) : Prop :=
  ∀ (done : List α) (a : α), (f a).outcome (afterAll f done m) = (f a).outcome m

namespace Steady

variable {f : α → Run β}

theorem step (h : Steady f m) (a : α) : Steady f ((f a).after m) := by
  intro done b
  have hnone : (f b).outcome ((f a).after m) = (f b).outcome m := h [a] b
  have hdone : (f b).outcome (afterAll f done ((f a).after m)) = (f b).outcome m := h (a :: done) b
  rw [hdone, hnone]

/-- What is known of items on a machine is known of them on the machine behind another item. -/
theorem behind (h : Steady f m) (a : α) {items : List α} {g : α → β}
    (hg : ∀ b ∈ items, (f b).outcome m = .ok (g b)) :
    ∀ b ∈ items, (f b).outcome ((f a).after m) = .ok (g b) :=
  fun b hb => (h [a] b).trans (hg b hb)

theorem afterAll_map (g : β → γ) (items : List α) (m : Machine) :
    afterAll (fun a => f a >>= fun b => pure (g b)) items m = afterAll f items m := by
  induction items generalizing m with
  | nil => rfl
  | cons a rest ih => rw [afterAll, afterAll, after_map, ih]

theorem map (h : Steady f m) (g : β → γ) : Steady (fun a => f a >>= fun b => pure (g b)) m := by
  intro done a
  rw [afterAll_map, outcome_map, outcome_map, h done a]

/-! ## Going through lists

Each method is first taken to the end of the items for which the computation has an answer. Behind
them there are no items, or there is one at which it halts. -/

theorem outcome_mapM {f : α → Run Value} (h : Steady f m) {g : α → Value} {before : List α}
    (hg : ∀ a ∈ before, (f a).outcome m = .ok (g a)) (rest : List α) :
    ((before ++ rest).mapM f).outcome m =
      ((rest.mapM f).outcome (afterAll f before m)).map (before.map g ++ ·) := by
  induction before generalizing m with
  | nil =>
    show (rest.mapM f).outcome m = ((rest.mapM f).outcome m).map fun vs => vs
    cases (rest.mapM f).outcome m <;> rfl
  | cons a before ih =>
    obtain ⟨ha, hbefore⟩ := List.forall_mem_cons.mp hg
    rw [List.cons_append, List.mapM_cons, outcome_bind_ok ha, outcome_map,
      ih (h.step a) (h.behind a hbefore), afterAll]
    cases (rest.mapM f).outcome (afterAll f before ((f a).after m)) <;> rfl

section

variable {test : α → Run Bool} {g : α → Bool} {before : List α}

theorem outcome_filterAuxM (h : Steady test m)
    (hg : ∀ a ∈ before, (test a).outcome m = .ok (g a)) (rest kept : List α) :
    ((before ++ rest).filterAuxM test kept).outcome m =
      (rest.filterAuxM test ((before.filter g).reverse ++ kept)).outcome
        (afterAll test before m) := by
  induction before generalizing m kept with
  | nil => rfl
  | cons a before ih =>
    obtain ⟨ha, hbefore⟩ := List.forall_mem_cons.mp hg
    rw [List.cons_append, List.filterAuxM, outcome_bind_ok ha, ih (h.step a) (h.behind a hbefore),
      afterAll, List.filter_cons]
    cases g a with
    | true =>
      rw [cond_true, if_pos rfl, List.reverse_cons, List.append_assoc, List.singleton_append]
    | false => rfl

/-- A test that holds of an item settles whether it holds of some. -/
theorem outcome_anyM (h : Steady test m) (hg : ∀ a ∈ before, (test a).outcome m = .ok (g a))
    (rest : List α) :
    ((before ++ rest).anyM test).outcome m =
      if before.any g then .ok true else (rest.anyM test).outcome (afterAll test before m) := by
  induction before generalizing m with
  | nil => rfl
  | cons a before ih =>
    obtain ⟨ha, hbefore⟩ := List.forall_mem_cons.mp hg
    rw [List.cons_append, List.anyM, outcome_bind_ok ha, List.any_cons]
    cases g a with
    | true => rfl
    | false => exact ih (h.step a) (h.behind a hbefore)

/-- A test that does not hold of an item settles whether it holds of all. -/
theorem outcome_allM (h : Steady test m) (hg : ∀ a ∈ before, (test a).outcome m = .ok (g a))
    (rest : List α) :
    ((before ++ rest).allM test).outcome m =
      if before.all g then (rest.allM test).outcome (afterAll test before m) else .ok false := by
  induction before generalizing m with
  | nil => rfl
  | cons a before ih =>
    obtain ⟨ha, hbefore⟩ := List.forall_mem_cons.mp hg
    rw [List.cons_append, List.allM, outcome_bind_ok ha, List.all_cons]
    cases g a with
    | true => exact ih (h.step a) (h.behind a hbefore)
    | false => rfl

end

/-! ## Methods -/

section

variable {f : Value → Run Value} {g : Value → Value}

/-- What a method tests items with answers as a function where the closure does. -/
theorem outcome_test {items : List Value} (hg : ∀ v ∈ items, (f v).outcome m = .ok (g v)) :
    ∀ v ∈ items, (f v >>= fun a => pure a.isTruthy).outcome m = .ok (g v).isTruthy := by
  intro v hv
  rw [outcome_map, hg v hv]
  rfl

/-- Where the closure answers as a function for all items, a method does with them what it does
with the function. -/
theorem callClosureMethod_ok (h : Steady f m) {items : List Value}
    (hg : ∀ v ∈ items, (f v).outcome m = .ok (g v)) (k : ClosureMethod) :
    (callClosureMethod k f items).outcome m = .ok (k.ofList g items) := by
  have htest := h.map Value.isTruthy
  have hends := outcome_test hg
  let truthy (v : Value) : Bool := (g v).isTruthy
  -- There are no items behind these.
  rw [← List.append_nil items]
  cases k with
  | map =>
    rw [callClosureMethod, outcome_map, h.outcome_mapM hg, List.mapM_nil]
    show Except.ok (Value.list (items.map g ++ [])) = _
    rw [← List.map_nil, ← List.map_append]
    rfl
  | filter =>
    rw [callClosureMethod, outcome_map, List.filterM, outcome_map, htest.outcome_filterAuxM hends]
    show Except.ok (Value.list ((items.filter truthy).reverse ++ []).reverse) = _
    rw [List.append_nil, List.reverse_reverse, List.append_nil]
    rfl
  | any =>
    rw [callClosureMethod, outcome_map, htest.outcome_anyM hends, List.append_nil]
    show Except.map Value.bool (if items.any truthy then .ok true else .ok false) =
      .ok (.bool (items.any truthy))
    cases items.any truthy <;> rfl
  | all =>
    rw [callClosureMethod, outcome_map, htest.outcome_allM hends, List.append_nil]
    show Except.map Value.bool (if items.all truthy then .ok true else .ok false) =
      .ok (.bool (items.all truthy))
    cases items.all truthy <;> rfl

/-- Where the closure halts at an item, a method halts with it, unless it is settled by the items
before. -/
theorem callClosureMethod_error (h : Steady f m) {before : List Value}
    (hg : ∀ v ∈ before, (f v).outcome m = .ok (g v)) {v : Value} {e : Halt}
    (he : (f v).outcome m = .error e) (after : List Value) (k : ClosureMethod) :
    (callClosureMethod k f (before ++ v :: after)).outcome m =
      match k.settled? g before with
      | some a => .ok a
      | none => .error e := by
  have htest := h.map Value.isTruthy
  have hends := outcome_test hg
  have hhalts : (f v).outcome (afterAll f before m) = .error e := (h before v).trans he
  have hstops : (f v >>= fun a => pure a.isTruthy).outcome
      (afterAll (fun v => f v >>= fun a => pure a.isTruthy) before m) = .error e := by
    rw [afterAll_map, outcome_map, hhalts]
    rfl
  cases k with
  | map =>
    rw [callClosureMethod, outcome_map, h.outcome_mapM hg, List.mapM_cons,
      outcome_bind_error hhalts]
    rfl
  | filter =>
    rw [callClosureMethod, outcome_map, List.filterM, outcome_map, htest.outcome_filterAuxM hends,
      List.filterAuxM, outcome_bind_error hstops]
    rfl
  | any =>
    rw [callClosureMethod, outcome_map, htest.outcome_anyM hends, List.anyM,
      outcome_bind_error hstops, ClosureMethod.settled?]
    cases before.any fun v => (g v).isTruthy <;> rfl
  | all =>
    rw [callClosureMethod, outcome_map, htest.outcome_allM hends, List.allM,
      outcome_bind_error hstops, ClosureMethod.settled?]
    cases before.all fun v => (g v).isTruthy <;> rfl

end

end Steady

section

variable {p : Provision} {env : Environment}

/-- A closure that was read from a draft is steady on every machine where its scopes are. -/
theorem steady_callClosure (hp : p.registry.FromDrafts) (hm : m.FunctionsOnly) (levels : Nat)
    (ctx : Context) (loc : Coordinate) {c : Closure}
    (hc : c.Every fun s => s.isFunctionLevel = true) (henv : c.env.Within m.frames) :
    Steady (fun v => callClosure (enterWithin p levels) ctx loc c [v]) m := by
  -- All calls before have only opened frames.
  have hextends : ∀ (done : List Value) {m' : Machine}, m.Extends m' →
      m.Extends (afterAll (fun v => callClosure (enterWithin p levels) ctx loc c [v]) done m') := by
    intro done
    induction done with
    | nil => exact id
    | cons v rest ih =>
      intro m' hm'
      exact ih (hm'.trans (extends_callClosure hp (hm'.functionsOnly hm) levels ctx loc hc [v]))
  intro done v
  exact outcome_callClosure_eq (hextends done (.refl m)) levels ctx loc henv [v]

/-- **Methods with closures are functions on lists.** At whatever machine an execution arrives, a
closure that was read from a draft comes to the same for an item whichever items it has been
called for before, with whatever outcomes, if its scopes are there. If it has an answer for all
items of a list, `map`, `filter`, `any` and `all` do with the list what the functions on lists do
with the answers. If it halts at an item and has answers for those before, the method halts with
it, unless it is settled by then: `any` if one of the answers before is truthy, and `all` if one
is not. -/
theorem callMethod_closure (hp : p.registry.FromDrafts) (hm : Reachable p m) (levels : Nat)
    (ctx : Context) (loc place : Coordinate) (params : List Draft.Param)
    (body : List Draft.FunctionStatement) (henv : env.Within m.frames) :
    let c : Closure := ⟨Draft.readParams params, Draft.readFunctionBody body, env⟩
    let f (v : Value) : Run Value := callClosure (enterWithin p levels) ctx loc c [v]
    let method (k : ClosureMethod) (items : List Value) : Run Value :=
      callMethod (enterWithin p levels) ctx loc k.name (.list items) [⟨place, none, .closure c⟩]
    (∀ done v, (f v).outcome (afterAll f done m) = (f v).outcome m) ∧
    (∀ items g, (∀ v ∈ items, (f v).outcome m = .ok (g v)) →
      ∀ k, (method k items).outcome m = .ok (k.ofList g items)) ∧
    ∀ before v after g e, (∀ u ∈ before, (f u).outcome m = .ok (g u)) →
      (f v).outcome m = .error e →
      ∀ k, (method k (before ++ v :: after)).outcome m =
        match k.settled? g before with
        | some a => .ok a
        | none => .error e := by
  intro c f method
  have hc : c.Every fun s => s.isFunctionLevel = true :=
    Draft.routine_every_readFunction (fun _ h => h) params body
  have hsteady : Steady f m := steady_callClosure hp (hm.functionsOnly hp) levels ctx loc hc henv
  have hmethod : ∀ k items, method k items = callClosureMethod k f items :=
    fun k items => callMethod_items rfl k.named?_name rfl rfl
  refine ⟨hsteady, fun items g hg k => ?_, fun before v after g e hg he k => ?_⟩
  · rw [hmethod]
    exact hsteady.callClosureMethod_ok hg k
  · rw [hmethod]
    exact hsteady.callClosureMethod_error hg he after k

end

/-- With `{ if $x { return true } else { return false } }`, which fails at anything but a truth
value, `filter` keeps what is true, `any` stops before it comes to `null`, and `all` fails there. -/
theorem callMethod_closure_test :
    let p : Provision := ⟨.keeping, .standard⟩
    let start := Machine.start (Host.empty [])
    let answer (b : Bool) : List Draft.FunctionStatement :=
      [.ret .origin (some (.boolean .origin b))]
    let body : List Draft.FunctionStatement :=
      [.conditional .origin (.variable .origin "$x") (answer true) [] (some (answer false))]
    let c : Closure :=
      ⟨Draft.readParams [.mk .origin "$x" none], Draft.readFunctionBody body, start.1⟩
    let method (k : ClosureMethod) (items : List Value) : Run Value :=
      callMethod (enterWithin p 2) default .origin k.name (.list items)
        [⟨.origin, none, .closure c⟩]
    (method .filter [.bool true, .bool false]).outcome start.2 = .ok (.list [.bool true]) ∧
    (method .any [.bool true, .null]).outcome start.2 = .ok (.bool true) ∧
    ∃ f : Failure, (method .all [.bool true, .null]).outcome start.2 = .error (.failed f) ∧
      f.cause.trouble = .type := by
  intro p start answer body c method
  obtain ⟨-, hfunction, hhalts⟩ := callMethod_closure Registry.fromDrafts_keeping
    (Reachable.start p (Host.empty [])) 2 default .origin .origin [.mk .origin "$x" none] body
    (.start .empty)
  have htrue : (callClosure (enterWithin p 2) default .origin c [.bool true]).outcome start.2 =
      .ok (.bool true) := rfl
  have hfalse : (callClosure (enterWithin p 2) default .origin c [.bool false]).outcome start.2 =
      .ok (.bool false) := rfl
  have hnull : (callClosure (enterWithin p 2) default .origin c [.null]).outcome start.2 =
      .error (.failed ⟨.origin, .notBoolean "none"⟩) := rfl
  have hfirst : ∀ u ∈ [Value.bool true],
      (callClosure (enterWithin p 2) default .origin c [u]).outcome start.2 = .ok u := by
    intro u hu
    obtain rfl := List.mem_singleton.mp hu
    exact htrue
  refine ⟨hfunction _ id (fun v hv => ?_) .filter, hhalts _ .null [] id _ hfirst hnull .any, ?_⟩
  · rcases List.mem_cons.mp hv with rfl | hv
    · exact htrue
    · obtain rfl := List.mem_singleton.mp hv
      exact hfalse
  · exact ⟨_, hhalts _ .null [] id _ hfirst hnull .all, rfl⟩

end Run

end Graft
