import Mathlib.Logic.Relation
import Graft.Proofs.Run.Evolution

/-!
The moments of an execution.

The interpreter is a family of functions that call each other, and what goes on during an
execution is which of them are called, with what, and on which machine. A `Part` is one such
call, a `Moment` a part together with the machine that it starts from, and
`Moment.Next` says which calls the interpreter makes in turn while it runs a part: the
first operand on the machine as it is, the second on the machine that the first has left
behind, a routine one level deeper. The moments of an execution are those that are reached
from its beginning.

Whatever is reached is reached by changes that the terms of the execution admit. So what
every change preserves holds at every moment, and behind the part that is run there.
-/

set_option autoImplicit false

namespace Graft

/-! ## Parts -/

/-- Something that the interpreter runs. -/
inductive Part where
  | expr (env : Environment) (ctx : Context) (e : Expr)
  | exprs (env : Environment) (ctx : Context) (es : List Expr)
  | entries (env : Environment) (ctx : Context) (known : Table Value) (entries : List Entry)
  | args (env : Environment) (ctx : Context) (args : List Arg)
  | call (env : Environment) (ctx : Context) (loc : Coordinate) (name : String)
      (receiver : Option Value) (args : List Argument)
  /-- A method goes on through these items with a closure. -/
  | items (method : ClosureMethod) (ctx : Context) (loc : Coordinate) (closure : Closure)
      (items : List Value)
  | closure (ctx : Context) (loc : Coordinate) (closure : Closure) (values : List Value)
  | routine (callee : String) (routine : Routine) (args : List Argument) (frame : Environment)
      (ctx : Context) (loc : Coordinate)
  | slots (callee : String) (frame : Environment) (ctx : Context) (loc : Coordinate)
      (slots : List (Param × Option Value))
  | statement (env : Environment) (ctx : Context) (s : Statement)
  | block (env : Environment) (ctx : Context) (body : List Statement)
  | branches (env : Environment) (ctx : Context) (branches : Branches)
  | range (env : Environment) (ctx : Context) (loc : Coordinate) (name : String)
      (body : List Statement) (first : Int) (count budget : Nat)
  | each (env : Environment) (ctx : Context) (loc : Coordinate) (key : Option String)
      (name : String) (body : List Statement) (entries : List (Value × Value)) (budget : Nat)
  | again (env : Environment) (ctx : Context) (loc : Coordinate) (condition : Expr)
      (body : List Statement) (budget : Nat)
  /-- A selection goes on through these elements. -/
  | visits (env : Environment) (ctx : Context) (loc : Coordinate) (body : List Statement)
      (ids : List ElementId)

/-- The families of parts. -/
inductive Part.Family where
  | expression
  | call
  | routine
  | statement
  | loop
  deriving DecidableEq

/-- The family that a part is of. -/
def Part.family : Part → Family
  | expr _ _ _ | exprs _ _ _ | entries _ _ _ _ | args _ _ _ => .expression
  | call _ _ _ _ _ _ | items _ _ _ _ _ | closure _ _ _ _ => .call
  | routine _ _ _ _ _ _ | slots _ _ _ _ _ => .routine
  | statement _ _ _ | block _ _ _ | branches _ _ _ => .statement
  | range _ _ _ _ _ _ _ _ | each _ _ _ _ _ _ _ _ | again _ _ _ _ _ _ | visits _ _ _ _ _ => .loop

/-- A part that enters a routine. -/
def Part.isRoutine : Part → Bool
  | routine _ _ _ _ _ _ => true
  | _ => false

namespace Run

/-- A computation without its answer. -/
def silently {α : Type} (x : Run α) : Run Unit := x >>= fun _ => pure ()

end Run

/-- The computation that a part stands for. -/
def Part.run (p : Provision) (enter : Enter) : Part → Run Unit
  | expr env ctx e => (Run.evaluate p enter env ctx e).silently
  | exprs env ctx es => (Run.evaluateAll p enter env ctx es).silently
  | entries env ctx known es => (Run.evaluateEntries p enter env ctx known es).silently
  | args env ctx as => (Run.evaluateArgs p enter env ctx as).silently
  | call env ctx loc name receiver as => (Run.call p enter env ctx loc name receiver as).silently
  | items method ctx loc c vs =>
    (Run.callClosureMethod method (fun v => Run.callClosure enter ctx loc c [v]) vs).silently
  | closure ctx loc c values => (Run.callClosure enter ctx loc c values).silently
  | routine callee r as frame ctx loc => (enter callee r as frame ctx loc).silently
  | slots callee frame ctx loc ss =>
    Run.bindSlots (Run.evaluate p enter frame ctx) callee frame loc ss
  | statement env ctx s => (Run.runStatement p enter env ctx s).silently
  | block env ctx body => (Run.runBlock p enter env ctx body).silently
  | branches env ctx bs => (Run.runBranches p enter env ctx bs).silently
  | range env ctx loc name body first count budget =>
    (Run.forRange loc p.settings.limits.maxLoopIterations (Run.rangeBody p enter env ctx name body)
      first count budget).silently
  | each env ctx loc key name body es budget =>
    (Run.forEach loc p.settings.limits.maxLoopIterations
      (Run.eachBody p enter env ctx key name body) es budget).silently
  | again env ctx loc condition body budget =>
    (Run.whileTrue loc p.settings.limits.maxLoopIterations (Run.evaluate p enter env ctx condition)
      (Run.runBlock p enter env ctx body) budget).silently
  | visits env ctx loc body ids =>
    Run.forMatches loc ctx (Run.visitBody p enter env body) ids

/-! ## Moments -/

/-- A part that is about to be run, by calls that may nest so many levels deep. -/
structure Moment where
  levels : Nat
  part : Part
  machine : Machine

namespace Moment

/-- The machine behind the part that is about to be run. -/
def after (p : Provision) (μ : Moment) : Machine :=
  (μ.part.run p (Run.enterWithin p μ.levels)).after μ.machine

/-- The beginning of the execution of a patch. -/
def start (p : Provision) (patch : Patch) (h : Host) : Moment :=
  let (env, m) := Machine.start h
  ⟨p.settings.limits.maxCallDepth + 1, .block env ⟨Host.root, false, [Host.root]⟩ patch.statements,
    m⟩

/-- What the execution of a patch leaves of the host is what its first part leaves. -/
theorem after_start (p : Provision) (patch : Patch) (h : Host) :
    ((start p patch h).after p).host = (patch.execute p h).2 := by
  simp only [start, after, Part.run, Patch.execute, Machine.start, Run.after, Run.silently]
  generalize hr : Run.runBlock p _ _ _ patch.statements _ = r
  cases r with
  | ok flow m => rw [Run.bind_ok hr]; rfl
  | error halt m => rw [Run.bind_error hr]

end Moment

/-- Whether a method with a closure goes on behind an answer of the closure. -/
def ClosureMethod.goesOn : ClosureMethod → Value → Bool
  | map, _ => true
  | filter, _ => true
  | any, v => !v.isTruthy
  | all, v => v.isTruthy

/-- An expression that is a closure. -/
def Expr.isClosure : Expr → Bool
  | .closure _ _ _ => true
  | _ => false

namespace Moment

open Run

/-- The calls that the interpreter makes while it runs a part. -/
inductive Next (p : Provision) : Moment → Moment → Prop
  -- Expressions: the operands in turn, each on the machine that the one before has left.
  | operand {l env ctx loc op e m} :
    Next p ⟨l, .expr env ctx (.unary loc op e), m⟩ ⟨l, .expr env ctx e, m⟩
  | left {l env ctx loc op a b m} :
    Next p ⟨l, .expr env ctx (.binary loc op a b), m⟩ ⟨l, .expr env ctx a, m⟩
  | right {l env ctx loc op a b m v m'} :
    evaluate p (enterWithin p l) env ctx a m = .ok v m' → settledBy? op ≠ some v.isTruthy →
    Next p ⟨l, .expr env ctx (.binary loc op a b), m⟩ ⟨l, .expr env ctx b, m'⟩
  | target {l env ctx loc a b m} :
    Next p ⟨l, .expr env ctx (.subscript loc a b), m⟩ ⟨l, .expr env ctx a, m⟩
  | index {l env ctx loc a b m v m'} :
    evaluate p (enterWithin p l) env ctx a m = .ok v m' →
    Next p ⟨l, .expr env ctx (.subscript loc a b), m⟩ ⟨l, .expr env ctx b, m'⟩
  | callArgs {l env ctx loc name args m} :
    Next p ⟨l, .expr env ctx (.call loc name args), m⟩ ⟨l, .args env ctx args, m⟩
  | call {l env ctx loc name args m given m'} :
    evaluateArgs p (enterWithin p l) env ctx args m = .ok given m' →
    Next p ⟨l, .expr env ctx (.call loc name args), m⟩ ⟨l, .call env ctx loc name none given, m'⟩
  | receiver {l env ctx loc e name args m} :
    Next p ⟨l, .expr env ctx (.memberCall loc e name args), m⟩ ⟨l, .expr env ctx e, m⟩
  | memberArgs {l env ctx loc e name args m v m'} :
    evaluate p (enterWithin p l) env ctx e m = .ok v m' →
    Next p ⟨l, .expr env ctx (.memberCall loc e name args), m⟩ ⟨l, .args env ctx args, m'⟩
  | memberCall {l env ctx loc e name args m v m' given m''} :
    evaluate p (enterWithin p l) env ctx e m = .ok v m' →
    evaluateArgs p (enterWithin p l) env ctx args m' = .ok given m'' →
    Next p ⟨l, .expr env ctx (.memberCall loc e name args), m⟩
      ⟨l, .call env ctx loc name (some v) given, m''⟩
  | condition {l env ctx loc c a b m} :
    Next p ⟨l, .expr env ctx (.ternary loc c a b), m⟩ ⟨l, .expr env ctx c, m⟩
  | whenTrue {l env ctx loc c a b m v m'} :
    evaluate p (enterWithin p l) env ctx c m = .ok v m' → v.isTruthy = true →
    Next p ⟨l, .expr env ctx (.ternary loc c a b), m⟩ ⟨l, .expr env ctx a, m'⟩
  | whenFalse {l env ctx loc c a b m v m'} :
    evaluate p (enterWithin p l) env ctx c m = .ok v m' → v.isTruthy = false →
    Next p ⟨l, .expr env ctx (.ternary loc c a b), m⟩ ⟨l, .expr env ctx b, m'⟩
  | listItems {l env ctx loc es m} :
    Next p ⟨l, .expr env ctx (.list loc es), m⟩ ⟨l, .exprs env ctx es, m⟩
  | objectEntries {l env ctx loc es m} :
    Next p ⟨l, .expr env ctx (.object loc es), m⟩ ⟨l, .entries env ctx [] es, m⟩
  | firstExpr {l env ctx e es m} :
    Next p ⟨l, .exprs env ctx (e :: es), m⟩ ⟨l, .expr env ctx e, m⟩
  | otherExprs {l env ctx e es m v m'} :
    evaluate p (enterWithin p l) env ctx e m = .ok v m' →
    Next p ⟨l, .exprs env ctx (e :: es), m⟩ ⟨l, .exprs env ctx es, m'⟩
  | firstEntry {l env ctx known loc key e es m} :
    Next p ⟨l, .entries env ctx known (.mk loc key e :: es), m⟩ ⟨l, .expr env ctx e, m⟩
  | otherEntries {l env ctx known loc key e es m v m'} :
    evaluate p (enterWithin p l) env ctx e m = .ok v m' →
    Next p ⟨l, .entries env ctx known (.mk loc key e :: es), m⟩
      ⟨l, .entries env ctx (Table.insert known key v) es, m'⟩
  | firstArg {l env ctx loc name e args m} :
    e.isClosure = false →
    Next p ⟨l, .args env ctx (.mk loc name e :: args), m⟩ ⟨l, .expr env ctx e, m⟩
  | argsBehindValue {l env ctx loc name e args m v m'} :
    e.isClosure = false → evaluate p (enterWithin p l) env ctx e m = .ok v m' →
    Next p ⟨l, .args env ctx (.mk loc name e :: args), m⟩ ⟨l, .args env ctx args, m'⟩
  | argsBehindClosure {l env ctx loc name e args m} :
    e.isClosure = true →
    Next p ⟨l, .args env ctx (.mk loc name e :: args), m⟩ ⟨l, .args env ctx args, m⟩
  -- Calls: a routine in a frame of its own, or a closure for one item after the other.
  | routine {l env ctx loc name receiver args m f frame m'} :
    (Table.get? m.functions name).or (p.registry.function? name) = some f →
    callFrame env m = .ok frame m' →
    Next p ⟨l, .call env ctx loc name receiver args, m⟩
      ⟨l, .routine name f ((receiver.map (Argument.plain loc)).toList ++ args) frame ctx loc, m'⟩
  | items {l env ctx loc name v args m inputs method c vs} :
    (Table.get? m.functions name).or (p.registry.function? name) = none →
    Inputs.ofArguments name args = .ok inputs → ClosureMethod.named? name = some method →
    inputs.onlyClosure name = .ok c → method.items v = .ok vs →
    Next p ⟨l, .call env ctx loc name (some v) args, m⟩ ⟨l, .items method ctx loc c vs, m⟩
  | firstItem {l method ctx loc c v vs m} :
    Next p ⟨l, .items method ctx loc c (v :: vs), m⟩ ⟨l, .closure ctx loc c [v], m⟩
  | otherItems {l} {method : ClosureMethod} {ctx loc c v vs m r m'} :
    callClosure (enterWithin p l) ctx loc c [v] m = .ok r m' → method.goesOn r = true →
    Next p ⟨l, .items method ctx loc c (v :: vs), m⟩ ⟨l, .items method ctx loc c vs, m'⟩
  | closure {l ctx loc} {c : Closure} {values m frame m'} :
    child c.env m = .ok frame m' →
    Next p ⟨l, .closure ctx loc c values, m⟩
      ⟨l, .routine "closure" ⟨c.params, c.body⟩ (values.map (Argument.plain loc)) frame ctx loc, m'⟩
  -- Routines, one call deeper: the defaults of parameters, then the body.
  | slots {l callee} {r : Routine} {args frame ctx loc} {m : Machine} {ss} :
    m.callDepth < p.settings.limits.maxCallDepth →
    (Slots.blank r.params).fillAll callee args = .ok ss →
    Next p ⟨l + 1, .routine callee r args frame ctx loc, m⟩
      ⟨l, .slots callee frame ctx loc ss.filled, m.deeper⟩
  | body {l callee} {r : Routine} {args frame ctx loc} {m m' : Machine} :
    m.callDepth < p.settings.limits.maxCallDepth →
    bindArguments (evaluate p (enterWithin p l) frame ctx) callee r.params args frame loc m.deeper =
      .ok () m' →
    Next p ⟨l + 1, .routine callee r args frame ctx loc, m⟩ ⟨l, .block frame ctx r.body, m'⟩
  | default {l callee frame ctx loc ploc name e ss m} :
    Next p ⟨l, .slots callee frame ctx loc ((.mk ploc name (some e), none) :: ss), m⟩
      ⟨l, .expr frame ctx e, m⟩
  | otherSlots {l callee frame ctx loc slot ss m m'} :
    bindSlots (evaluate p (enterWithin p l) frame ctx) callee frame loc [slot] m = .ok () m' →
    Next p ⟨l, .slots callee frame ctx loc (slot :: ss), m⟩ ⟨l, .slots callee frame ctx loc ss, m'⟩
  -- Statements: the expressions in them, then what they run.
  | declared {l env ctx loc name e m} :
    Next p ⟨l, .statement env ctx (.declare loc name e), m⟩ ⟨l, .expr env ctx e, m⟩
  | conditional {l env ctx loc branches m} :
    Next p ⟨l, .statement env ctx (.conditional loc branches), m⟩ ⟨l, .branches env ctx branches, m⟩
  | returned {l env ctx loc e m} :
    Next p ⟨l, .statement env ctx (.ret loc (some e)), m⟩ ⟨l, .expr env ctx e, m⟩
  | rangeFirst {l env ctx loc name a b end_ body m} :
    Next p ⟨l, .statement env ctx (.forRange loc name a b end_ body), m⟩ ⟨l, .expr env ctx a, m⟩
  | rangeLast {l env ctx loc name a b end_ body m x m'} :
    evaluate p (enterWithin p l) env ctx a m = .ok (.int x) m' →
    Next p ⟨l, .statement env ctx (.forRange loc name a b end_ body), m⟩ ⟨l, .expr env ctx b, m'⟩
  | range {l env ctx loc name a b end_ body m x m' y m''} :
    evaluate p (enterWithin p l) env ctx a m = .ok (.int x) m' →
    evaluate p (enterWithin p l) env ctx b m' = .ok (.int y) m'' →
    Next p ⟨l, .statement env ctx (.forRange loc name a b end_ body), m⟩
      ⟨l, .range env ctx loc name body x.toInt (rangeCount x y end_)
        p.settings.limits.maxLoopIterations, m''⟩
  | iterable {l env ctx loc key name e body m} :
    Next p ⟨l, .statement env ctx (.forEach loc key name e body), m⟩ ⟨l, .expr env ctx e, m⟩
  | each {l env ctx loc key name e body m v m' entries} :
    evaluate p (enterWithin p l) env ctx e m = .ok v m' → entriesOf? v = some entries →
    Next p ⟨l, .statement env ctx (.forEach loc key name e body), m⟩
      ⟨l, .each env ctx loc key name body entries p.settings.limits.maxLoopIterations, m'⟩
  | again {l env ctx loc c body m} :
    Next p ⟨l, .statement env ctx (.whileTrue loc c body), m⟩
      ⟨l, .again env ctx loc c body p.settings.limits.maxLoopIterations, m⟩
  | setTo {l env ctx loc e m} :
    Next p ⟨l, .statement env ctx (.set loc e), m⟩ ⟨l, .expr env ctx e, m⟩
  | merged {l env ctx loc e m} :
    Next p ⟨l, .statement env ctx (.merge loc e), m⟩ ⟨l, .expr env ctx e, m⟩
  | written {l env ctx loc key indexer e m path} :
    fieldPath key indexer = .ok path →
    Next p ⟨l, .statement env ctx (.field loc key indexer e), m⟩ ⟨l, .expr env ctx e, m⟩
  | mixinArgs {l env ctx loc name args} {m : Machine} {mixin} :
    (Table.get? m.mixins name).or (p.registry.mixin? name) = some mixin →
    Next p ⟨l, .statement env ctx (.includeMixin loc name args), m⟩ ⟨l, .args env ctx args, m⟩
  | mixin {l env ctx loc name args} {m : Machine} {mixin given m' frame m''} :
    (Table.get? m.mixins name).or (p.registry.mixin? name) = some mixin →
    evaluateArgs p (enterWithin p l) env ctx args m = .ok given m' →
    child env m' = .ok frame m'' →
    Next p ⟨l, .statement env ctx (.includeMixin loc name args), m⟩
      ⟨l, .routine name mixin given frame ctx loc, m''⟩
  | selection {l env} {ctx : Context} {loc attributes selector body m ids host} :
    isWanted p attributes ctx.selected = true →
    selector.resolve p ctx.element m.host = (.ok ids, host) →
    Next p ⟨l, .statement env ctx (.selection loc attributes selector body), m⟩
      ⟨l, .visits env ctx loc body ids, m.ran.yielded host ids⟩
  | evaluated {l env ctx loc e m} :
    Next p ⟨l, .statement env ctx (.expression loc e), m⟩ ⟨l, .expr env ctx e, m⟩
  | library {l} {env : Environment} {ctx loc name m library} :
    p.registry.library? name = some library →
    Next p ⟨l, .statement env ctx (.importLibrary loc name), m⟩
      ⟨l, .routine name ⟨[], library.statements⟩ [] env.globalScope ctx loc, m⟩
  | firstStatement {l env ctx s rest m} :
    Next p ⟨l, .block env ctx (s :: rest), m⟩ ⟨l, .statement env ctx s, m⟩
  | otherStatements {l env ctx s rest m m'} :
    runStatement p (enterWithin p l) env ctx s m = .ok .next m' →
    Next p ⟨l, .block env ctx (s :: rest), m⟩ ⟨l, .block env ctx rest, m'⟩
  | otherwise {l env ctx body m scope m'} :
    child env m = .ok scope m' →
    Next p ⟨l, .branches env ctx (.otherwise body), m⟩ ⟨l, .block scope ctx body, m'⟩
  | test {l env ctx loc c body rest m} :
    Next p ⟨l, .branches env ctx (.when loc c body rest), m⟩ ⟨l, .expr env ctx c, m⟩
  | passed {l env ctx loc c body rest m m' scope m''} :
    evaluate p (enterWithin p l) env ctx c m = .ok (.bool true) m' →
    child env m' = .ok scope m'' →
    Next p ⟨l, .branches env ctx (.when loc c body rest), m⟩ ⟨l, .block scope ctx body, m''⟩
  | otherBranches {l env ctx loc c body rest m m'} :
    evaluate p (enterWithin p l) env ctx c m = .ok (.bool false) m' →
    Next p ⟨l, .branches env ctx (.when loc c body rest), m⟩ ⟨l, .branches env ctx rest, m'⟩
  -- Loops: the body in a frame of its own, then the rest of the loop.
  | rangeBody {l env ctx loc name body first count budget m scope m'} :
    child env m = .ok scope m' →
    Next p ⟨l, .range env ctx loc name body first (count + 1) (budget + 1), m⟩
      ⟨l, .block scope ctx body, (declare scope name (.int (Int64.ofInt first))).after m'⟩
  | otherNumbers {l env ctx loc name body first count budget m m'} :
    Run.rangeBody p (enterWithin p l) env ctx name body (Int64.ofInt first) m = .ok .next m' →
    Next p ⟨l, .range env ctx loc name body first (count + 1) (budget + 1), m⟩
      ⟨l, .range env ctx loc name body (first + 1) count budget, m'⟩
  | eachBody {l env ctx loc key name body k v rest budget m scope m'} :
    eachScope env key name k v m = .ok scope m' →
    Next p ⟨l, .each env ctx loc key name body ((k, v) :: rest) (budget + 1), m⟩
      ⟨l, .block scope ctx body, m'⟩
  | otherEach {l env ctx loc key name body k v rest budget m m'} :
    Run.eachBody p (enterWithin p l) env ctx key name body k v m = .ok .next m' →
    Next p ⟨l, .each env ctx loc key name body ((k, v) :: rest) (budget + 1), m⟩
      ⟨l, .each env ctx loc key name body rest budget, m'⟩
  | againTest {l env ctx loc c body budget m} :
    Next p ⟨l, .again env ctx loc c body budget, m⟩ ⟨l, .expr env ctx c, m⟩
  | againBody {l env ctx loc c body budget m v m'} :
    evaluate p (enterWithin p l) env ctx c m = .ok v m' → v.isTruthy = true →
    Next p ⟨l, .again env ctx loc c body (budget + 1), m⟩ ⟨l, .block env ctx body, m'⟩
  | againAgain {l env ctx loc c body budget m v m' m''} :
    evaluate p (enterWithin p l) env ctx c m = .ok v m' → v.isTruthy = true →
    runBlock p (enterWithin p l) env ctx body m' = .ok .next m'' →
    Next p ⟨l, .again env ctx loc c body (budget + 1), m⟩ ⟨l, .again env ctx loc c body budget, m''⟩
  | visit {l env} {ctx : Context} {loc body id rest} {m : Machine} {scope m'} :
    m.host.checkEditable id = .ok () → child env m = .ok scope m' →
    Next p ⟨l, .visits env ctx loc body (id :: rest), m⟩
      ⟨l, .block scope ⟨id, true, id :: rest ++ ctx.held⟩ body, m'⟩
  | otherVisits {l env} {ctx : Context} {loc body id rest} {m : Machine} {m'} :
    m.host.checkEditable id = .ok () →
    visitBody p (enterWithin p l) env body ⟨id, true, id :: rest ++ ctx.held⟩ m = .ok () m' →
    Next p ⟨l, .visits env ctx loc body (id :: rest), m⟩ ⟨l, .visits env ctx loc body rest, m'⟩

/-- A moment that is reached from another by calls. -/
abbrev Reaches (p : Provision) : Moment → Moment → Prop :=
  Relation.ReflTransGen (Next p)

end Moment

/-! ## Terms and moments -/

/-- What happens up to a call that is made at a moment: changes on the level of the moment, or
one call deeper, at the beginning of a routine. -/
inductive Calls (t : Terms) (μ μ' : Moment) : Prop
  | level : μ'.levels = μ.levels → Evolves t μ.machine μ'.machine → Calls t μ μ'
  | deeper : μ.levels = μ'.levels + 1 → μ.machine.callDepth < t.callLimit →
    Evolves t μ.machine.deeper μ'.machine → Calls t μ μ'

/-- What happens from one moment to another, call by call. -/
abbrev Descends (t : Terms) : Moment → Moment → Prop :=
  Relation.ReflTransGen (Calls t)

theorem Calls.invariant {t : Terms} {J : Machine → Prop}
    (hchange : ∀ {m m' : Machine}, Change t m m' → J m → J m')
    (hdepth : ∀ {m : Machine} (n : Nat), J m → J { m with callDepth := n })
    {μ μ' : Moment} (h : Calls t μ μ') (hμ : J μ.machine) : J μ'.machine := by
  cases h with
  | level _ hev => exact hev.invariant hchange hdepth hμ
  | deeper _ _ hev => exact hev.invariant hchange hdepth (hdepth _ hμ)

theorem Descends.invariant {t : Terms} {J : Machine → Prop}
    (hchange : ∀ {m m' : Machine}, Change t m m' → J m → J m')
    (hdepth : ∀ {m : Machine} (n : Nat), J m → J { m with callDepth := n })
    {μ μ' : Moment} (h : Descends t μ μ') (hμ : J μ.machine) : J μ'.machine := by
  induction h with
  | refl => exact hμ
  | tail _ hcall ih => exact hcall.invariant hchange hdepth ih

/-- A part keeps to terms if its statements are among theirs, it binds in frames of theirs,
and the element it offers to edits is in `X`. -/
def Part.Keeps (t : Terms) (X : ElementId → Prop) : Part → Prop
  | expr _ ctx e => e.Every t.statements ∧ ctx.Admitted t X
  | exprs _ ctx es => Expr.EveryIn t.statements es ∧ ctx.Admitted t X
  | entries _ ctx _ es => Entry.EveryIn t.statements es ∧ ctx.Admitted t X
  | args _ ctx as => Arg.EveryIn t.statements as ∧ ctx.Admitted t X
  | call _ ctx _ _ _ as => Argument.Every (Closure.Every t.statements) as ∧ ctx.Admitted t X
  | items _ ctx _ c _ => c.Every t.statements ∧ ctx.Admitted t X
  | closure ctx _ c _ => c.Every t.statements ∧ ctx.Admitted t X
  | routine _ r _ frame ctx _ =>
    r.Every t.statements ∧ t.frames frame.innermost ∧ ctx.Admitted t X
  | slots _ frame ctx _ ss =>
    Param.EveryIn t.statements (ss.map Prod.fst) ∧ t.frames frame.innermost ∧ ctx.Admitted t X
  | statement env ctx s => s.Every t.statements ∧ t.frames env.innermost ∧ ctx.Admitted t X
  | block env ctx body =>
    Statement.EveryIn t.statements body ∧ t.frames env.innermost ∧ ctx.Admitted t X
  | branches _ ctx bs => bs.Every t.statements ∧ ctx.Admitted t X
  | range _ ctx _ _ body _ _ _ => Statement.EveryIn t.statements body ∧ ctx.Admitted t X
  | each _ ctx _ _ _ body _ _ => Statement.EveryIn t.statements body ∧ ctx.Admitted t X
  | again env ctx _ c body _ =>
    c.Every t.statements ∧ Statement.EveryIn t.statements body ∧ t.frames env.innermost ∧
      ctx.Admitted t X
  | visits _ _ _ body ids => Statement.EveryIn t.statements body ∧ ∀ id ∈ ids, X id

/-- The value of an expression that keeps to terms has been found by changes that they admit. -/
theorem Machine.Sound.evaluated {t : Terms} {X : ElementId → Prop} {m m' : Machine}
    (hm : m.Sound t X) {l : Nat} {env : Environment} {ctx : Context} {e : Expr} {v : Value}
    (he : e.Every t.statements) (hctx : ctx.Admitted t X)
    (hx : Run.evaluate t.provision (Run.enterWithin t.provision l) env ctx e m = .ok v m') :
    Evolves t m m' :=
  ((Makes.evaluate (Run.enterWithin_keeps t l) env hctx e he).behind hm hx).1

namespace Moment

/-- A moment is in order for terms if its machine is and its part keeps to them. -/
structure Sound (t : Terms) (X : ElementId → Prop) (μ : Moment) : Prop where
  machine : μ.machine.Sound t X
  part : μ.part.Keeps t X

variable {t : Terms} {X : ElementId → Prop}

/-- What a part that keeps to terms does is admitted by them. -/
theorem Sound.run {μ : Moment} (h : μ.Sound t X) :
    Evolves t μ.machine (μ.after t.provision) := by
  have he : Enter.Keeps t (Run.enterWithin t.provision μ.levels) :=
    Run.enterWithin_keeps t μ.levels
  obtain ⟨l, part, m⟩ := μ
  obtain ⟨hm, hpart⟩ := h
  have hmakes : Makes t X (part.run t.provision (Run.enterWithin t.provision l)) fun _ => True := by
    -- Each part is one function of the interpreter, which keeps to its terms.
    have hsilent : ∀ {α : Type} {x : Run α} {Q : α → Prop}, Makes t X x Q →
        Makes t X x.silently fun _ => True := fun h => h.bind fun _ _ => .pure trivial
    cases part with
    | expr env ctx e => exact hsilent (Makes.evaluate he env hpart.2 e hpart.1)
    | exprs env ctx es => exact hsilent (Makes.evaluateAll he env hpart.2 es hpart.1)
    | entries env ctx known es =>
      exact hsilent (Makes.evaluateEntries he env hpart.2 es hpart.1 known)
    | args env ctx as => exact hsilent (Makes.evaluateArgs he env hpart.2 as hpart.1)
    | call env ctx loc name receiver as =>
      exact hsilent (Makes.call he env hpart.2 loc name receiver hpart.1)
    | items method ctx loc c vs =>
      exact hsilent (Makes.callClosureMethod method
        (fun v => Makes.callClosure he hpart.2 loc hpart.1 [v]) vs)
    | closure ctx loc c values => exact hsilent (Makes.callClosure he hpart.2 loc hpart.1 values)
    | routine callee r as frame ctx loc =>
      exact hsilent (he callee as loc hpart.1 hpart.2.1 hpart.2.2)
    | slots callee frame ctx loc ss =>
      exact Makes.bindSlots callee hpart.2.1 loc (Makes.evaluate he frame hpart.2.2) ss hpart.1
    | statement env ctx s =>
      exact hsilent (Makes.runStatement he s hpart.1 (fun _ => hpart.2.1) hpart.2.2)
    | block env ctx body => exact hsilent (Makes.runBlock he body hpart.1 hpart.2.1 hpart.2.2)
    | branches env ctx bs => exact hsilent (Makes.runBranches he bs hpart.1 hpart.2)
    | range env ctx loc name body first count budget =>
      exact hsilent (Makes.forRange loc _
        (Makes.rangeBody env (fun hscope => Makes.runBlock he body hpart.1 hscope hpart.2) name)
        count first budget)
    | each env ctx loc key name body es budget =>
      exact hsilent (Makes.forEach loc _
        (Makes.eachBody env (fun hscope => Makes.runBlock he body hpart.1 hscope hpart.2) key name)
        es budget)
    | again env ctx loc c body budget =>
      exact hsilent (Makes.whileTrue loc _ (Makes.evaluate he env hpart.2.2.2 c hpart.1)
        (Makes.runBlock he body hpart.2.1 hpart.2.2.1 hpart.2.2.2) budget)
    | visits env ctx loc body ids =>
      exact Makes.forMatches loc ctx (fun hinner => Makes.visitBody env fun hscope =>
        Makes.runBlock he body hpart.1 hscope hinner) ids hpart.2
  exact (hmakes m hm).1

/-- What is called at a moment is called after changes that the terms admit, and is in order for
them. -/
def Leads (t : Terms) (μ μ' : Moment) : Prop :=
  ∃ Y : ElementId → Prop, Calls t μ μ' ∧ μ'.Sound t Y

section

variable {l : Nat} {part part' : Part} {m m' : Machine}

/-- A call on the machine as it is. -/
theorem Sound.stay (h : Sound t X ⟨l, part, m⟩) (hp : part'.Keeps t X) :
    Leads t ⟨l, part, m⟩ ⟨l, part', m⟩ :=
  ⟨X, .level rfl (.refl _), h.machine, hp⟩

/-- A call on the machine that another call leaves. -/
theorem Sound.behind (h : Sound t X ⟨l, part, m⟩) (hev : Evolves t m m')
    (hp : part'.Keeps t X) : Leads t ⟨l, part, m⟩ ⟨l, part', m'⟩ :=
  ⟨X, .level rfl hev, h.machine.evolves hev, hp⟩

end

namespace Next

variable {μ μ' : Moment}

/-- Expressions call their operands, in turn. -/
theorem sound_of_expression (h : Next t.provision μ μ') (hμ : μ.Sound t X)
    (hfamily : μ.part.family = .expression) : Leads t μ μ' := by
  have he := Run.enterWithin_keeps t
  have hm := hμ.machine
  have hpart := hμ.part
  cases h with
  | operand => exact hμ.stay ⟨hpart.1, hpart.2⟩
  | left => exact hμ.stay ⟨hpart.1.1, hpart.2⟩
  | right hx _ => exact hμ.behind (hm.evaluated hpart.1.1 hpart.2 hx) ⟨hpart.1.2, hpart.2⟩
  | target => exact hμ.stay ⟨hpart.1.1, hpart.2⟩
  | index hx => exact hμ.behind (hm.evaluated hpart.1.1 hpart.2 hx) ⟨hpart.1.2, hpart.2⟩
  | callArgs => exact hμ.stay ⟨hpart.1, hpart.2⟩
  | call hx =>
    obtain ⟨hev, hargs⟩ := (Makes.evaluateArgs (he _) _ hpart.2 _ hpart.1).behind hm hx
    exact hμ.behind hev ⟨hargs.imp fun _ hc => hc.1, hpart.2⟩
  | receiver => exact hμ.stay ⟨hpart.1.1, hpart.2⟩
  | memberArgs hx => exact hμ.behind (hm.evaluated hpart.1.1 hpart.2 hx) ⟨hpart.1.2, hpart.2⟩
  | memberCall hx hy =>
    have hev := hm.evaluated hpart.1.1 hpart.2 hx
    obtain ⟨hev', hargs⟩ :=
      (Makes.evaluateArgs (he _) _ hpart.2 _ hpart.1.2).behind (hm.evolves hev) hy
    exact hμ.behind (hev.trans hev') ⟨hargs.imp fun _ hc => hc.1, hpart.2⟩
  | condition => exact hμ.stay ⟨hpart.1.1, hpart.2⟩
  | whenTrue hx _ => exact hμ.behind (hm.evaluated hpart.1.1 hpart.2 hx) ⟨hpart.1.2.1, hpart.2⟩
  | whenFalse hx _ => exact hμ.behind (hm.evaluated hpart.1.1 hpart.2 hx) ⟨hpart.1.2.2, hpart.2⟩
  | listItems => exact hμ.stay ⟨hpart.1, hpart.2⟩
  | objectEntries => exact hμ.stay ⟨hpart.1, hpart.2⟩
  | firstExpr => exact hμ.stay ⟨hpart.1.1, hpart.2⟩
  | otherExprs hx => exact hμ.behind (hm.evaluated hpart.1.1 hpart.2 hx) ⟨hpart.1.2, hpart.2⟩
  | firstEntry => exact hμ.stay ⟨hpart.1.1, hpart.2⟩
  | otherEntries hx => exact hμ.behind (hm.evaluated hpart.1.1 hpart.2 hx) ⟨hpart.1.2, hpart.2⟩
  | firstArg _ => exact hμ.stay ⟨hpart.1.1, hpart.2⟩
  | argsBehindValue _ hx => exact hμ.behind (hm.evaluated hpart.1.1 hpart.2 hx) ⟨hpart.1.2, hpart.2⟩
  | argsBehindClosure _ => exact hμ.stay ⟨hpart.1.2, hpart.2⟩
  | _ => cases hfamily

/-- A call enters a routine in a frame of its own, or goes through items with a closure. -/
theorem sound_of_call (h : Next t.provision μ μ') (hμ : μ.Sound t X)
    (hfamily : μ.part.family = .call) : Leads t μ μ' := by
  have he := Run.enterWithin_keeps t
  have hm := hμ.machine
  have hpart := hμ.part
  cases h with
  | routine hf hframe =>
    have hroutine := Makes.every_of_function hm hf
    obtain ⟨hev, hin⟩ := (Makes.child _).behind hm hframe
    exact hμ.behind hev ⟨hroutine, hin, hpart.2⟩
  | items _ hinputs _ hclosure _ =>
    have hmem := Inputs.mem_of_onlyClosure hclosure
    have hc := Inputs.mem_closures_ofArguments hinputs hpart.1 _ hmem
    exact hμ.stay ⟨hc, hpart.2⟩
  | firstItem => exact hμ.stay hpart
  | otherItems hx _ =>
    exact hμ.behind ((Makes.callClosure (he _) hpart.2 _ hpart.1 _).behind hm hx).1 hpart
  | closure hframe =>
    obtain ⟨hev, hin⟩ := (Makes.child _).behind hm hframe
    exact hμ.behind hev ⟨hpart.1, hin, hpart.2⟩
  | _ => cases hfamily

/-- A routine calls the defaults of its parameters and its body one call deeper. -/
theorem sound_of_routine (h : Next t.provision μ μ') (hμ : μ.Sound t X)
    (hfamily : μ.part.family = .routine) : Leads t μ μ' := by
  have he := Run.enterWithin_keeps t
  have hm := hμ.machine
  have hpart := hμ.part
  cases h with
  | slots hd hfill =>
    refine ⟨X, .deeper rfl hd (.refl _), hm.atDepth _, ?_, hpart.2.1, hpart.2.2⟩
    -- The slots are those of the parameters, whatever fills them.
    rw [Slots.params_of_fillAll hfill, Slots.params_blank]
    exact hpart.1.params
  | body hd hx =>
    have hev := ((Makes.bindArguments (he _) hpart.1.params hpart.2.1 hpart.2.2 _ _ _).behind
      (hm.atDepth _) hx).1
    exact ⟨X, .deeper rfl hd hev, (hm.atDepth _).evolves hev, hpart.1.body, hpart.2.1, hpart.2.2⟩
  | default => exact hμ.stay ⟨hpart.1.1, hpart.2.2⟩
  | @otherSlots l callee frame ctx loc slot ss m m' hx =>
    obtain ⟨⟨ploc, name, default⟩, filled⟩ := slot
    have hslot := Makes.bindSlots callee hpart.2.1 loc (Makes.evaluate (he l) frame hpart.2.2)
      [(.mk ploc name default, filled)] ⟨hpart.1.1, trivial⟩
    exact hμ.behind (hslot.behind hm hx).1 ⟨hpart.1.2, hpart.2⟩
  | _ => cases hfamily

/-- A selection offers the elements that it yields to edits, so the terms admit edits of them from
there on. Every other statement calls what it is made of on the terms that it has. -/
theorem sound_of_statement (h : Next t.provision μ μ') (hμ : μ.Sound t X)
    (hfamily : μ.part.family = .statement) : Leads t μ μ' := by
  have he := Run.enterWithin_keeps t
  have hm := hμ.machine
  have hpart := hμ.part
  cases h with
  | declared => exact hμ.stay ⟨hpart.1.2, hpart.2.2⟩
  | conditional => exact hμ.stay ⟨hpart.1.2, hpart.2.2⟩
  | returned => exact hμ.stay ⟨hpart.1.2, hpart.2.2⟩
  | rangeFirst => exact hμ.stay ⟨hpart.1.2.1, hpart.2.2⟩
  | rangeLast hx =>
    exact hμ.behind (hm.evaluated hpart.1.2.1 hpart.2.2 hx) ⟨hpart.1.2.2.1, hpart.2.2⟩
  | range hx hy =>
    have hev := hm.evaluated hpart.1.2.1 hpart.2.2 hx
    have hev' := (hm.evolves hev).evaluated hpart.1.2.2.1 hpart.2.2 hy
    exact hμ.behind (hev.trans hev') ⟨hpart.1.2.2.2, hpart.2.2⟩
  | iterable => exact hμ.stay ⟨hpart.1.2.1, hpart.2.2⟩
  | each hx _ => exact hμ.behind (hm.evaluated hpart.1.2.1 hpart.2.2 hx) ⟨hpart.1.2.2, hpart.2.2⟩
  | again => exact hμ.stay ⟨hpart.1.2.1, hpart.1.2.2, hpart.2.1, hpart.2.2⟩
  | setTo => exact hμ.stay ⟨hpart.1.2, hpart.2.2⟩
  | merged => exact hμ.stay ⟨hpart.1.2, hpart.2.2⟩
  | written _ => exact hμ.stay ⟨hpart.1.2, hpart.2.2⟩
  | mixinArgs _ => exact hμ.stay ⟨hpart.1.2, hpart.2.2⟩
  | mixin hf hargs hframe =>
    have hmixin := Makes.every_of_mixin ⟨_, _, _, hpart.1.1⟩ hm hf
    have hev := ((Makes.evaluateArgs (he _) _ hpart.2.2 _ hpart.1.2).behind hm hargs).1
    obtain ⟨hev', hin⟩ := (Makes.child _).behind (hm.evolves hev) hframe
    exact hμ.behind (hev.trans hev') ⟨hmixin, hin, hpart.2.2⟩
  | selection _ hr =>
    obtain ⟨hev, hm'⟩ := Makes.yield hpart.1.1 hm (hpart.2.2.scope hm) hr
    -- From here on the terms admit edits of the elements that were yielded.
    exact ⟨_, .level rfl hev, hm', hpart.1.2, fun id hid => Or.inr hid⟩
  | evaluated => exact hμ.stay ⟨hpart.1.2, hpart.2.2⟩
  | library hl =>
    have himports : Imports t.statements := ⟨_, _, hpart.1⟩
    exact hμ.stay ⟨⟨trivial, t.registry.libraries himports hl⟩, t.global himports _, hpart.2.2⟩
  | firstStatement => exact hμ.stay ⟨hpart.1.1, hpart.2⟩
  | @otherStatements l env ctx s rest m m' hx =>
    have hs := Makes.runStatement (he l) s hpart.1.1 (fun _ => hpart.2.1) hpart.2.2
    exact hμ.behind (hs.behind hm hx).1 ⟨hpart.1.2, hpart.2⟩
  | otherwise hscope =>
    obtain ⟨hev, hin⟩ := (Makes.child _).behind hm hscope
    exact hμ.behind hev ⟨hpart.1, hin, hpart.2⟩
  | test => exact hμ.stay ⟨hpart.1.1, hpart.2⟩
  | passed hx hscope =>
    have hev := hm.evaluated hpart.1.1 hpart.2 hx
    obtain ⟨hev', hin⟩ := (Makes.child _).behind (hm.evolves hev) hscope
    exact hμ.behind (hev.trans hev') ⟨hpart.1.2.1, hin, hpart.2⟩
  | otherBranches hx => exact hμ.behind (hm.evaluated hpart.1.1 hpart.2 hx) ⟨hpart.1.2.2, hpart.2⟩
  | _ => cases hfamily

/-- A loop calls its body, with its variables bound in a frame of the body, and the rest of it. -/
theorem sound_of_loop (h : Next t.provision μ μ') (hμ : μ.Sound t X)
    (hfamily : μ.part.family = .loop) : Leads t μ μ' := by
  have he := Run.enterWithin_keeps t
  have hm := hμ.machine
  have hpart := hμ.part
  cases h with
  | @rangeBody l env ctx loc name body first count budget m scope m' hscope =>
    obtain ⟨hev, hin⟩ := (Makes.child _).behind hm hscope
    have hbound := (Makes.declare hin name (.int (Int64.ofInt first)) m' (hm.evolves hev)).1
    exact hμ.behind (hev.trans hbound) ⟨hpart.1, hin, hpart.2⟩
  | @otherNumbers l env ctx loc name body first count budget m m' hx =>
    have hbody := Makes.rangeBody env
      (fun hscope => Makes.runBlock (he l) body hpart.1 hscope hpart.2) name (Int64.ofInt first)
    exact hμ.behind (hbody.behind hm hx).1 hpart
  | eachBody hscope =>
    obtain ⟨hev, hin⟩ := (Makes.eachScope _ _ _ _ _).behind hm hscope
    exact hμ.behind hev ⟨hpart.1, hin, hpart.2⟩
  | @otherEach l env ctx loc key name body k v rest budget m m' hx =>
    have hbody := Makes.eachBody env
      (fun hscope => Makes.runBlock (he l) body hpart.1 hscope hpart.2) key name k v
    exact hμ.behind (hbody.behind hm hx).1 hpart
  | againTest => exact hμ.stay ⟨hpart.1, hpart.2.2.2⟩
  | againBody hx _ =>
    exact hμ.behind (hm.evaluated hpart.1 hpart.2.2.2 hx) ⟨hpart.2.1, hpart.2.2.1, hpart.2.2.2⟩
  | @againAgain l env ctx loc c body budget m v m' m'' hx _ hy =>
    have hev := hm.evaluated hpart.1 hpart.2.2.2 hx
    have hbody := Makes.runBlock (he l) body hpart.2.1 hpart.2.2.1 hpart.2.2.2
    exact hμ.behind (hev.trans (hbody.behind (hm.evolves hev) hy).1) hpart
  | visit _ hscope =>
    obtain ⟨hev, hin⟩ := (Makes.child _).behind hm hscope
    exact hμ.behind hev ⟨hpart.1, hin, fun _ _ => hpart.2 _ List.mem_cons_self⟩
  | @otherVisits l env ctx loc body id rest m m' _ hx =>
    have hctx : Context.Admitted t X ⟨id, true, id :: rest ++ ctx.held⟩ :=
      fun _ _ => hpart.2 id List.mem_cons_self
    have hbody := Makes.visitBody env fun hscope =>
      Makes.runBlock (he l) body hpart.1 hscope hctx
    exact hμ.behind (hbody.behind hm hx).1
      ⟨hpart.1, fun id hid => hpart.2 id (List.mem_cons_of_mem _ hid)⟩
  | _ => cases hfamily

/-- **One call.** What the interpreter calls while it runs a part that keeps to terms keeps to
them too, and it starts from a machine that the terms admit. -/
theorem sound (h : Next t.provision μ μ') (hμ : μ.Sound t X) : Leads t μ μ' := by
  cases hfamily : μ.part.family with
  | expression => exact h.sound_of_expression hμ hfamily
  | call => exact h.sound_of_call hμ hfamily
  | routine => exact h.sound_of_routine hμ hfamily
  | statement => exact h.sound_of_statement hμ hfamily
  | loop => exact h.sound_of_loop hμ hfamily

end Next

/-- What is reached from a moment in order is in order, and is reached by changes that the
terms admit. -/
theorem Reaches.sound {μ μ' : Moment} (h : Reaches t.provision μ μ') (hμ : μ.Sound t X) :
    ∃ Y : ElementId → Prop, Descends t μ μ' ∧ μ'.Sound t Y := by
  induction h with
  | refl => exact ⟨X, .refl, hμ⟩
  | tail _ hnext ih =>
    obtain ⟨Y, hdesc, hμ'⟩ := ih
    obtain ⟨Z, hcall, hμ''⟩ := hnext.sound hμ'
    exact ⟨Z, hdesc.tail hcall, hμ''⟩

end Moment

/-! ## Executions -/

/-- The terms of a whole execution: it may bind in every frame. -/
def Terms.whole (p : Provision) (P : Statement → Prop) (hp : p.registry.Every P) : Terms where
  provision := p
  statements := P
  frames := fun _ => True
  base := 0
  accounted := True
  own := fun _ _ => trivial
  global := fun _ _ => trivial
  registry := hp

/-- Before anything is run, no routine has been defined. -/
theorem Machine.sound_start {p : Provision} {P : Statement → Prop} (hp : p.registry.Every P)
    (h : Host) : (Machine.start h).2.Sound (.whole p P hp) fun _ => False where
  functions hf := by cases hf
  mixins _ _ _ hf := by cases hf
  base := Nat.zero_le _
  matched _ hid := hid.elim

/-- At the top of a document nothing is selected. -/
theorem Context.admitted_root (t : Terms) :
    Context.Admitted t (fun _ => False) ⟨Host.root, false, [Host.root]⟩ := by
  intro _ hscope
  rcases hscope with hselected | hroot
  · cases hselected
  · exact absurd rfl hroot

section

variable {p : Provision} {P : Statement → Prop} (hp : p.registry.Every P) {patch : Patch}
  (hpatch : Statement.EveryIn P patch.statements) {h : Host}

include hpatch

/-- The beginning of an execution is in order for the terms of the whole. -/
theorem Moment.sound_start : (Moment.start p patch h).Sound (.whole p P hp) fun _ => False where
  machine := Machine.sound_start hp h
  part := ⟨hpatch, trivial, Context.admitted_root _⟩

/-- **Every moment.** What holds at the beginning of an execution, is preserved by every change
and does not depend on the depth of calls holds at every moment of the execution, and behind
the part that is run there. -/
theorem Moment.Reaches.invariant {J : Machine → Prop}
    (hchange : ∀ {m m' : Machine}, Change (.whole p P hp) m m' → J m → J m')
    (hdepth : ∀ {m : Machine} (n : Nat), J m → J { m with callDepth := n })
    (hstart : J (Machine.start h).2) {μ : Moment}
    (hμ : Moment.Reaches p (Moment.start p patch h) μ) : J μ.machine ∧ J (μ.after p) := by
  -- The invariant is carried to the moment, and from there through what is run.
  obtain ⟨Y, hdesc, hsound⟩ := Moment.Reaches.sound (t := .whole p P hp) hμ
    (Moment.sound_start hp hpatch)
  have hJ := hdesc.invariant hchange hdepth hstart
  exact ⟨hJ, hsound.run.invariant hchange hdepth hJ⟩

end

end Graft
