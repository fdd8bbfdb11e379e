import Mathlib.Data.Prod.Lex
import Mathlib.Data.Set.Finite.Lattice
import Mathlib.Data.Set.Finite.List
import Graft.Proofs.Run.Moment

/-!
Executions come to an end.

Whatever the interpreter calls while it runs a part is smaller than the part. A routine takes
one of the levels that calls may nest; what is inside an expression or a statement is smaller
than it; and a loop has less of its budget left, or fewer entries, numbers or elements to go
through. So calls cannot go on for ever. Since every part makes finitely many of them, an
execution has finitely many moments.
-/

set_option autoImplicit false

namespace Graft

/-! ## The size of a moment -/

/-- How much syntax a part still has before it, where a loop stands between its statement and its
body. What goes on without syntax of its own is below all syntax: calls go on to items, items to
closures and closures to routines. -/
noncomputable def Part.weight : Part → Nat
  | routine .. => 0
  | closure .. => 1
  | items .. => 2
  | call .. => 3
  | expr _ _ e => 2 * sizeOf e + 3
  | exprs _ _ es => 2 * sizeOf es + 3
  | entries _ _ _ es => 2 * sizeOf es + 3
  | args _ _ as => 2 * sizeOf as + 3
  | slots _ _ _ _ ss => 2 * sizeOf ss + 3
  | statement _ _ s => 2 * sizeOf s + 3
  | block _ _ body => 2 * sizeOf body + 3
  | branches _ _ bs => 2 * sizeOf bs + 3
  | range _ _ _ _ body _ _ _ => 2 * sizeOf body + 4
  | each _ _ _ _ _ body _ _ => 2 * sizeOf body + 4
  | again _ _ _ c body _ => 2 * (sizeOf c + sizeOf body) + 4
  | visits _ _ _ body _ => 2 * sizeOf body + 4

/-- How often a loop still goes on. -/
def Part.rounds : Part → Nat
  | items _ _ _ _ vs => vs.length
  | range _ _ _ _ _ _ count _ => count
  | each _ _ _ _ _ _ es _ => es.length
  | again _ _ _ _ _ budget => budget
  | visits _ _ _ _ ids => ids.length
  | _ => 0

namespace Moment

/-- The size of a moment: the levels that are left, then the syntax, then the rounds of a
loop. -/
noncomputable def size (μ : Moment) : Nat ×ₗ Nat ×ₗ Nat :=
  toLex (μ.levels, toLex (μ.part.weight, μ.part.rounds))

/-- **What is called is smaller.** -/
theorem Next.size_lt {p : Provision} {μ ν : Moment} (h : Next p μ ν) : ν.size < μ.size := by
  -- Either a level is spent, or there is less syntax, or a loop has fewer rounds.
  have hlevel : ν.levels < μ.levels → ν.size < μ.size := fun hlt => by
    rw [size, size, Prod.Lex.toLex_lt_toLex]
    exact .inl hlt
  have hweight : ν.levels = μ.levels → ν.part.weight < μ.part.weight → ν.size < μ.size := by
    intro heq hlt
    rw [size, size, Prod.Lex.toLex_lt_toLex, Prod.Lex.toLex_lt_toLex]
    exact .inr ⟨heq, .inl hlt⟩
  have hrounds : ν.levels = μ.levels → ν.part.weight = μ.part.weight →
      ν.part.rounds < μ.part.rounds → ν.size < μ.size := by
    intro heq heq' hlt
    rw [size, size, Prod.Lex.toLex_lt_toLex, Prod.Lex.toLex_lt_toLex]
    exact .inr ⟨heq, .inr ⟨heq', hlt⟩⟩
  cases h with
  | slots | body => exact hlevel (Nat.lt_succ_self _)
  | otherItems | otherNumbers | otherEach | againAgain | otherVisits =>
    exact hrounds rfl rfl (by simp [Part.rounds])
  | firstItem | closure | routine | items => exact hweight rfl (by simp [Part.weight])
  | mixin | library => exact hweight rfl (by simp [Part.weight])
  | _ => exact hweight rfl (by simp +arith [Part.weight])

/-- Calls do not go on for ever. -/
theorem next_wellFounded (p : Provision) : WellFounded fun ν μ => Next p μ ν :=
  Subrelation.wf (fun h => h.size_lt) (InvImage.wf size wellFounded_lt)

end Moment

/-! ## Finitely many moments -/

/-- What is listed behind a computation that has an answer. -/
def Run.listBehind {α β : Type} (x : Run α) (m : Machine) (f : α → Machine → List β) : List β :=
  match x m with
  | .ok a m' => f a m'
  | .error _ _ => []

namespace Moment

open Run

section

variable (p : Provision) (l : Nat)

/-- What may be called while an expression is evaluated. -/
def exprCalls (env : Environment) (ctx : Context) (m : Machine) : Expr → List Moment
  | .unary _ _ a => [⟨l, .expr env ctx a, m⟩]
  | .binary _ _ a b =>
    ⟨l, .expr env ctx a, m⟩ ::
      (evaluate p (enterWithin p l) env ctx a).listBehind m fun _ m => [⟨l, .expr env ctx b, m⟩]
  | .subscript _ a b =>
    ⟨l, .expr env ctx a, m⟩ ::
      (evaluate p (enterWithin p l) env ctx a).listBehind m fun _ m => [⟨l, .expr env ctx b, m⟩]
  | .call loc name args =>
    ⟨l, .args env ctx args, m⟩ ::
      (evaluateArgs p (enterWithin p l) env ctx args).listBehind m fun given m =>
        [⟨l, .call env ctx loc name none given, m⟩]
  | .memberCall loc e name args =>
    ⟨l, .expr env ctx e, m⟩ ::
      (evaluate p (enterWithin p l) env ctx e).listBehind m fun v m =>
        ⟨l, .args env ctx args, m⟩ ::
          (evaluateArgs p (enterWithin p l) env ctx args).listBehind m fun given m =>
            [⟨l, .call env ctx loc name (some v) given, m⟩]
  | .ternary _ c a b =>
    ⟨l, .expr env ctx c, m⟩ ::
      (evaluate p (enterWithin p l) env ctx c).listBehind m fun _ m =>
        [⟨l, .expr env ctx a, m⟩, ⟨l, .expr env ctx b, m⟩]
  | .list _ es => [⟨l, .exprs env ctx es, m⟩]
  | .object _ es => [⟨l, .entries env ctx [] es, m⟩]
  | _ => []

/-- What may be called while a statement is run. -/
def statementCalls (env : Environment) (ctx : Context) (m : Machine) : Statement → List Moment
  | .declare _ _ e => [⟨l, .expr env ctx e, m⟩]
  | .conditional _ branches => [⟨l, .branches env ctx branches, m⟩]
  | .ret _ (some e) => [⟨l, .expr env ctx e, m⟩]
  | .forRange loc name a b end_ body =>
    ⟨l, .expr env ctx a, m⟩ ::
      (evaluate p (enterWithin p l) env ctx a).listBehind m fun x m =>
        ⟨l, .expr env ctx b, m⟩ ::
          (evaluate p (enterWithin p l) env ctx b).listBehind m fun y m =>
            match x, y with
            | .int x, .int y =>
              [⟨l, .range env ctx loc name body x.toInt (rangeCount x y end_)
                p.settings.limits.maxLoopIterations, m⟩]
            | _, _ => []
  | .forEach loc key name e body =>
    ⟨l, .expr env ctx e, m⟩ ::
      (evaluate p (enterWithin p l) env ctx e).listBehind m fun v m =>
        (entriesOf? v).toList.map fun entries =>
          ⟨l, .each env ctx loc key name body entries p.settings.limits.maxLoopIterations, m⟩
  | .whileTrue loc c body =>
    [⟨l, .again env ctx loc c body p.settings.limits.maxLoopIterations, m⟩]
  | .set _ e => [⟨l, .expr env ctx e, m⟩]
  | .merge _ e => [⟨l, .expr env ctx e, m⟩]
  | .field _ _ _ e => [⟨l, .expr env ctx e, m⟩]
  | .includeMixin loc name args =>
    ⟨l, .args env ctx args, m⟩ ::
      (evaluateArgs p (enterWithin p l) env ctx args).listBehind m fun given m' =>
        (child env).listBehind m' fun frame m' =>
          ((Table.get? m.mixins name).or (p.registry.mixin? name)).toList.map fun mixin =>
            ⟨l, .routine name mixin given frame ctx loc, m'⟩
  | .selection loc _ selector body =>
    match selector.resolve p ctx.element m.host with
    | (.ok ids, host) => [⟨l, .visits env ctx loc body ids, m.ran.yielded host ids⟩]
    | (.error _, _) => []
  | .expression _ e => [⟨l, .expr env ctx e, m⟩]
  | .importLibrary loc name =>
    (p.registry.library? name).toList.map fun library =>
      ⟨l, .routine name ⟨[], library.statements⟩ [] env.globalScope ctx loc, m⟩
  | _ => []

end

/-- What may be called at a moment. -/
def calls (p : Provision) : Moment → List Moment
  | ⟨l, .expr env ctx e, m⟩ => exprCalls p l env ctx m e
  | ⟨l, .exprs env ctx (e :: es), m⟩ =>
    ⟨l, .expr env ctx e, m⟩ ::
      (evaluate p (enterWithin p l) env ctx e).listBehind m fun _ m => [⟨l, .exprs env ctx es, m⟩]
  | ⟨l, .entries env ctx known (.mk _ key e :: es), m⟩ =>
    ⟨l, .expr env ctx e, m⟩ ::
      (evaluate p (enterWithin p l) env ctx e).listBehind m fun v m =>
        [⟨l, .entries env ctx (Table.insert known key v) es, m⟩]
  | ⟨l, .args env ctx (.mk _ _ e :: args), m⟩ =>
    ⟨l, .expr env ctx e, m⟩ :: ⟨l, .args env ctx args, m⟩ ::
      (evaluate p (enterWithin p l) env ctx e).listBehind m fun _ m => [⟨l, .args env ctx args, m⟩]
  | ⟨l, .call env ctx loc name receiver args, m⟩ =>
    (((Table.get? m.functions name).or (p.registry.function? name)).toList.flatMap fun f =>
      (callFrame env).listBehind m fun frame m =>
        [⟨l, .routine name f ((receiver.map (Argument.plain loc)).toList ++ args) frame ctx loc,
          m⟩]) ++
    match receiver, Inputs.ofArguments name args, ClosureMethod.named? name with
    | some v, .ok inputs, some method =>
      match inputs.onlyClosure name, method.items v with
      | .ok c, .ok vs => [⟨l, .items method ctx loc c vs, m⟩]
      | _, _ => []
    | _, _, _ => []
  | ⟨l, .items method ctx loc c (v :: vs), m⟩ =>
    ⟨l, .closure ctx loc c [v], m⟩ ::
      (callClosure (enterWithin p l) ctx loc c [v]).listBehind m fun _ m =>
        [⟨l, .items method ctx loc c vs, m⟩]
  | ⟨l, .closure ctx loc c values, m⟩ =>
    (child c.env).listBehind m fun frame m =>
      [⟨l, .routine "closure" ⟨c.params, c.body⟩ (values.map (Argument.plain loc)) frame ctx loc,
        m⟩]
  | ⟨l + 1, .routine callee r args frame ctx loc, m⟩ =>
    (match (Slots.blank r.params).fillAll callee args with
      | .ok ss => [⟨l, .slots callee frame ctx loc ss.filled, m.deeper⟩]
      | .error _ => []) ++
    (bindArguments (evaluate p (enterWithin p l) frame ctx) callee r.params args frame
      loc).listBehind m.deeper fun _ m => [⟨l, .block frame ctx r.body, m⟩]
  | ⟨l, .slots callee frame ctx loc (slot :: ss), m⟩ =>
    (slot.1.default.toList.map fun e => ⟨l, .expr frame ctx e, m⟩) ++
      (bindSlots (evaluate p (enterWithin p l) frame ctx) callee frame loc [slot]).listBehind m
        fun _ m => [⟨l, .slots callee frame ctx loc ss, m⟩]
  | ⟨l, .statement env ctx s, m⟩ => statementCalls p l env ctx m s
  | ⟨l, .block env ctx (s :: rest), m⟩ =>
    ⟨l, .statement env ctx s, m⟩ ::
      (runStatement p (enterWithin p l) env ctx s).listBehind m fun _ m =>
        [⟨l, .block env ctx rest, m⟩]
  | ⟨l, .branches env ctx (.otherwise body), m⟩ =>
    (child env).listBehind m fun scope m => [⟨l, .block scope ctx body, m⟩]
  | ⟨l, .branches env ctx (.when _ c body rest), m⟩ =>
    ⟨l, .expr env ctx c, m⟩ ::
      (evaluate p (enterWithin p l) env ctx c).listBehind m fun _ m =>
        ⟨l, .branches env ctx rest, m⟩ ::
          (child env).listBehind m fun scope m => [⟨l, .block scope ctx body, m⟩]
  | ⟨l, .range env ctx loc name body first (count + 1) (budget + 1), m⟩ =>
    ((child env).listBehind m fun scope m =>
      [⟨l, .block scope ctx body, (declare scope name (.int (Int64.ofInt first))).after m⟩]) ++
    (Run.rangeBody p (enterWithin p l) env ctx name body (Int64.ofInt first)).listBehind m
      fun _ m => [⟨l, .range env ctx loc name body (first + 1) count budget, m⟩]
  | ⟨l, .each env ctx loc key name body ((k, v) :: rest) (budget + 1), m⟩ =>
    ((eachScope env key name k v).listBehind m fun scope m => [⟨l, .block scope ctx body, m⟩]) ++
    (Run.eachBody p (enterWithin p l) env ctx key name body k v).listBehind m fun _ m =>
      [⟨l, .each env ctx loc key name body rest budget, m⟩]
  | ⟨l, .again env ctx loc c body budget, m⟩ =>
    ⟨l, .expr env ctx c, m⟩ ::
      (evaluate p (enterWithin p l) env ctx c).listBehind m fun _ m =>
        ⟨l, .block env ctx body, m⟩ ::
          (runBlock p (enterWithin p l) env ctx body).listBehind m fun _ m =>
            [⟨l, .again env ctx loc c body (budget - 1), m⟩]
  | ⟨l, .visits env ctx loc body (id :: rest), m⟩ =>
    ((child env).listBehind m fun scope m =>
      [⟨l, .block scope ⟨id, true, id :: rest ++ ctx.held⟩ body, m⟩]) ++
    (visitBody p (enterWithin p l) env body ⟨id, true, id :: rest ++ ctx.held⟩).listBehind m
      fun _ m => [⟨l, .visits env ctx loc body rest, m⟩]
  | _ => []

theorem Next.mem_calls {p : Provision} {μ ν : Moment} (h : Next p μ ν) : ν ∈ μ.calls p := by
  cases h with
  -- The elements that are held are written differently there.
  | otherVisits _ hx =>
    rw [List.cons_append] at hx
    simp [calls, listBehind, hx]
  | _ => simp [calls, exprCalls, statementCalls, listBehind, Param.default, *]

/-- **Executions are finite.** From every moment, finitely many moments are reached. -/
theorem finite_reaches (p : Provision) (μ : Moment) : {ν | Reaches p μ ν}.Finite := by
  induction μ using (next_wellFounded p).induction with
  | _ μ ih =>
    have hcalls : {ν | Next p μ ν}.Finite :=
      (List.finite_toSet (μ.calls p)).subset fun ν h => h.mem_calls
    have hbelow : (⋃ ν ∈ {ν | Next p μ ν}, {κ | Reaches p ν κ}).Finite :=
      hcalls.biUnion fun ν hν => ih ν hν
    -- What is reached is the moment itself, or is reached from something that is called there.
    refine (hbelow.insert μ).subset fun κ hκ => ?_
    obtain rfl | ⟨ν, hν, hκ⟩ := Relation.ReflTransGen.cases_head hκ
    · exact Set.mem_insert _ _
    · exact Set.mem_insert_of_mem _ (Set.mem_biUnion hν hκ)

end Moment

end Graft
