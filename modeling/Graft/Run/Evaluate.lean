import Graft.Run.Builtin

/-!
Evaluation of expressions.

Expressions are evaluated from left to right by recursion on their structure. What they
call is not part of them, so calls go through a parameter, `enter`, that runs a routine one
level deeper; how deep is the business of its definition. A name that is called means a
function of the patch, or else one of the registry, or else a builtin. A method call hands
its receiver over as the first argument, unless it means a builtin method.
-/

set_option autoImplicit false

namespace Graft

/-- How a routine is entered: by which name, with which arguments and in which frame. -/
abbrev Enter : Type :=
  (callee : String) → Routine → List Argument → (frame : Environment) → Context → Coordinate →
    Run Flow

namespace Run

/-- The value under a subscript. -/
def subscript (loc : Coordinate) (target index : Value) : Run Value :=
  match target, index with
  | .list items, .int n =>
    match if n.toInt < 0 then none else items[n.toInt.toNat]? with
    | some v => pure v
    | none => fail loc (.indexOutOfRange n items.length)
  | .object entries, .string key =>
    match Table.get? entries key with
    | some v => pure v
    | none => fail loc (.missingKey key)
  | target, index => fail loc (.notIndexable target.typeName index.typeName)

/-- Calls a closure with values, in a frame inside the scopes that it was written in. -/
def callClosure (enter : Enter) (ctx : Context) (loc : Coordinate) (c : Closure)
    (values : List Value) : Run Value := do
  let frame ← child c.env
  let flow ← enter "closure" ⟨c.params, c.body⟩ (values.map (Argument.plain loc)) frame ctx loc
  return flow.value

/-- Goes through items with a test: a list of those that it holds of, or whether it holds of
some or of all. A method that looks for one answer stops as soon as it has it. -/
def callClosureMethod (m : ClosureMethod) (f : Value → Run Value) (items : List Value) :
    Run Value :=
  let test := fun v => do return (← f v).isTruthy
  match m with
  | .map => do return .list (← items.mapM f)
  | .filter => do return .list (← items.filterM test)
  | .any => do return .bool (← items.anyM test)
  | .all => do return .bool (← items.allM test)

/-- Calls a builtin function. -/
def callBuiltin (ctx : Context) (loc : Coordinate) (name : String) (args : List Argument) :
    Run Value := do
  let inputs ← match Inputs.ofArguments name args with
    | .ok inputs => pure inputs
    | .error (loc, cause) => fail loc cause
  match Builtin.named? name with
  | none => fail loc (.unknownFunction name)
  | some b =>
    let values ← ofExcept loc id (inputs.expect name b.arity.1 b.arity.2)
    match b.aboutElement? ((← get).host.get ctx.element) with
    | some v => do
      let _ ← target ctx loc (.builtin name)
      return v
    | none => ofExcept loc id (b.ofValues values)

/-- Calls a builtin method. -/
def callMethod (enter : Enter) (ctx : Context) (loc : Coordinate) (name : String)
    (receiver : Value) (args : List Argument) : Run Value := do
  let inputs ← match Inputs.ofArguments name args with
    | .ok inputs => pure inputs
    | .error (loc, cause) => fail loc cause
  match ClosureMethod.named? name with
  | some m => do
    let c ← ofExcept loc id (inputs.onlyClosure name)
    let items ← ofExcept loc id (m.items receiver)
    callClosureMethod m (fun v => callClosure enter ctx loc c [v]) items
  | none =>
    match Method.named? name with
    | some m => ofExcept loc id (m.call receiver inputs)
    | none => fail loc (.unknownMethod name)

/-- Calls what a name means. -/
def call (p : Provision) (enter : Enter) (env : Environment) (ctx : Context) (loc : Coordinate)
    (name : String) (receiver : Option Value) (args : List Argument) : Run Value := do
  let m ← get
  match (Table.get? m.functions name).or (p.registry.function? name) with
  | some f => do
    let args := (receiver.map (Argument.plain loc)).toList ++ args
    let flow ← enter name f args (← callFrame env) ctx loc
    return flow.value
  | none =>
    match receiver with
    | some v => callMethod enter ctx loc name v args
    | none => callBuiltin ctx loc name args

/-- The operators that look at their right operand only if the left one leaves it open: the
truth of the left operand that settles them. -/
def settledBy? : BinaryOp → Option Bool
  | .and => some false
  | .or => some true
  | _ => none

mutual

/-- The value of an expression. -/
def evaluate (p : Provision) (enter : Enter) (env : Environment) (ctx : Context) :
    Expr → Run Value
  | .literal _ v => pure v
  | .variable loc name => do
    match env.findInward? (← get).frames name with
    | some v => return v
    | none => fail loc (.unboundVariable name)
  | .localVariable loc name => do
    match env.findOutward? (← get).frames name with
    | some v => return v
    | none => fail loc (.unboundLocal name)
  | .unary loc op operand => do
    let v ← evaluate p enter env ctx operand
    ofExcept loc .operator (Value.unary op v)
  | .binary loc op left right => do
    let a ← evaluate p enter env ctx left
    if settledBy? op = some a.isTruthy then return .bool a.isTruthy
    let b ← evaluate p enter env ctx right
    ofExcept loc .operator (Value.binary op a b)
  | .subscript loc target index => do
    let a ← evaluate p enter env ctx target
    let b ← evaluate p enter env ctx index
    subscript loc a b
  | .call loc name args => do
    let args ← evaluateArgs p enter env ctx args
    call p enter env ctx loc name none args
  | .memberCall loc target name args => do
    let receiver ← evaluate p enter env ctx target
    let args ← evaluateArgs p enter env ctx args
    call p enter env ctx loc name (some receiver) args
  | .ternary _ condition whenTrue whenFalse => do
    let c ← evaluate p enter env ctx condition
    if c.isTruthy then evaluate p enter env ctx whenTrue
    else evaluate p enter env ctx whenFalse
  | .list _ items => do return .list (← evaluateAll p enter env ctx items)
  | .object _ entries => do return .object (← evaluateEntries p enter env ctx [] entries)
  | .closure loc _ _ => fail loc .strayClosure
  | .error loc fault => fail loc (.fault fault)

/-- The values of expressions. -/
def evaluateAll (p : Provision) (enter : Enter) (env : Environment) (ctx : Context) :
    List Expr → Run (List Value)
  | [] => pure []
  | e :: rest => do
    let v ← evaluate p enter env ctx e
    let vs ← evaluateAll p enter env ctx rest
    return v :: vs

/-- The entries of an object, entered behind those of a table. -/
def evaluateEntries (p : Provision) (enter : Enter) (env : Environment) (ctx : Context)
    (t : Table Value) : List Entry → Run (Table Value)
  | [] => pure t
  | .mk _ key e :: rest => do
    let v ← evaluate p enter env ctx e
    evaluateEntries p enter env ctx (Table.insert t key v) rest

/-- The arguments of a call. A closure is not evaluated but keeps the scopes around it. -/
def evaluateArgs (p : Provision) (enter : Enter) (env : Environment) (ctx : Context) :
    List Arg → Run (List Argument)
  | [] => pure []
  | .mk loc name (.closure _ params body) :: rest => do
    let args ← evaluateArgs p enter env ctx rest
    return ⟨loc, name, .closure ⟨params, body, env⟩⟩ :: args
  | .mk loc name e :: rest => do
    let v ← evaluate p enter env ctx e
    let args ← evaluateArgs p enter env ctx rest
    return ⟨loc, name, .value v⟩ :: args

end

end Run

end Graft
