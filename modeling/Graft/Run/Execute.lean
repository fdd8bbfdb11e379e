import Graft.Run.Evaluate

/-!
Execution of statements, of patches and of several patches in turn.

Statements run by recursion on their structure, and the loops by recursion on what is left
of their budget. Routines are entered through `enterWithin`, which may nest as many levels
deep as it is told; the limit on the depth of calls is smaller by one, so that a run fails
at the limit before the levels are used up.

A selection runs its body once for each element that its selector yields. The elements are
released one by one: while the body runs, the run holds the element, those still to come,
and what the surrounding selections hold.
-/

set_option autoImplicit false

namespace Graft

namespace Run

/-! ## Loops -/

/-- Runs a body for `count` whole numbers from `first` on. -/
def forRange (loc : Coordinate) (limit : Nat) (body : Int64 → Run Flow) :
    (first : Int) → (count budget : Nat) → Run Flow
  | _, 0, _ => pure .next
  | _, _ + 1, 0 => fail loc (.loopLimit limit)
  | first, count + 1, budget + 1 => do
    match ← body (Int64.ofInt first) with
    | .next => forRange loc limit body (first + 1) count budget
    | .returned v => return .returned v

/-- Runs a body for entries in turn. -/
def forEach (loc : Coordinate) (limit : Nat) (body : Value → Value → Run Flow) :
    List (Value × Value) → (budget : Nat) → Run Flow
  | [], _ => pure .next
  | _ :: _, 0 => fail loc (.loopLimit limit)
  | (k, v) :: rest, budget + 1 => do
    match ← body k v with
    | .next => forEach loc limit body rest budget
    | .returned v => return .returned v

/-- Runs a body as long as a condition holds. -/
def whileTrue (loc : Coordinate) (limit : Nat) (condition : Run Value) (body : Run Flow) :
    (budget : Nat) → Run Flow
  | 0 => do
    if (← condition).isTruthy then fail loc (.loopLimit limit) else return .next
  | budget + 1 => do
    if (← condition).isTruthy then
      match ← body with
      | .next => whileTrue loc limit condition body budget
      | .returned v => return .returned v
    else return .next

/-- How many whole numbers a range has. -/
def rangeCount (first last : Int64) : RangeEnd → Nat
  | .exclusive => (last.toInt - first.toInt).toNat
  | .inclusive => (last.toInt - first.toInt + 1).toNat

/-- The keys and values that a loop goes through. -/
def entriesOf? : Value → Option (List (Value × Value))
  | .list items => some (items.zipIdx.map fun (v, i) => (.int (Int64.ofNat i), v))
  | .object entries => some (entries.map fun (k, v) => (.string k, v))
  | _ => none

/-- A whole number from an evaluated bound. -/
def bound (loc : Coordinate) (which : String) : Value → Run Int64
  | .int n => pure n
  | v => fail loc (.boundNotInteger which v.typeName)

/-! ## Edits -/

/-- Replaces the value of the selected element, or deletes the element. -/
def setValue (ctx : Context) (loc : Coordinate) (v : Value) : Run Unit := do
  let id ← target ctx loc .setStatement
  edit loc fun h =>
    if v.isDeletion then h.delete ctx.held id else h.set id v.withoutDeletions

/-- Deletes the selected element. -/
def deleteElement (ctx : Context) (loc : Coordinate) : Run Unit := do
  let id ← target ctx loc .deleteStatement
  edit loc fun h => h.delete ctx.held id

/-- Merges into the value of the selected element, or deletes the element. -/
def mergeValue (ctx : Context) (loc : Coordinate) (v : Value) : Run Unit := do
  let id ← target ctx loc .mergeStatement
  edit loc fun h => if v.isDeletion then h.delete ctx.held id else h.merge id v

/-- The path that a field statement writes to. -/
def fieldPath (key : String) : Option Indexer → Except Cause (List Segment)
  | none => .ok [.key key]
  | some (.position _ n) => .ok [.key key, .index n.toNat]
  | some (.ofType _ tag) => .ok [.key key, .ofType tag]
  | some (.ofClass _ tag) => .ok [.key key, .ofClass tag]
  | some (.key _ name) => .ok [.key key, .key name]
  | some (.error _ fault) => .error (.fault fault)

/-- Writes into the value of the selected element, which becomes an object if it was
nothing. -/
def writeField (conventions : FieldConventions) (ctx : Context) (loc : Coordinate)
    (path : List Segment) (v : Value) : Run Unit := do
  let id ← target ctx loc .fieldStatement
  let current := match ((← get).host.get id).value with
    | .null => .object []
    | current => current
  let changed ← ofExcept loc .path (Value.writeAt conventions v current path)
  edit loc fun h => h.set id changed

/-! ## Selections -/

/-- Whether a selection is to run: its mods are there, and, unless it is inside another, it
belongs to the stage of the run. -/
def isWanted (p : Provision) (attributes : List Attribute) (inside : Bool) : Bool :=
  attributes.all (fun
    | .requireMod _ name => p.registry.isModActive name
    | .requireNotMod _ name => !p.registry.isModActive name
    | .runAtStage _ _ => true) &&
  (inside ||
    match p.settings.stage with
    | some stage => stageOf? attributes == some stage
    | none => true)

/-- Runs a body against elements in turn. -/
def forMatches (loc : Coordinate) (ctx : Context) (body : Context → Run Unit) :
    List ElementId → Run Unit
  | [] => pure ()
  | id :: rest => do
    ofExcept loc .host ((← get).host.checkEditable id)
    body ⟨id, true, id :: rest ++ ctx.held⟩
    forMatches loc ctx body rest

/-- Resolves the selector of a selection and runs its body against what it yields. -/
def select (p : Provision) (ctx : Context) (loc : Coordinate) (attributes : List Attribute)
    (selector : Selector) (body : Context → Run Unit) : Run Unit := do
  if isWanted p attributes ctx.selected then
    note fun r => { r with blocksRun := r.blocksRun + 1 }
    let m ← get
    let (result, host) := selector.select p.registry.rulesets p.settings.limits.maxRulesetDepth
      ctx.element m.host
    set { m with host }
    let ids ← ofExcept selector.loc .selector result
    note fun r => { r with matched := ids.reverse ++ r.matched }
    forMatches loc ctx body ids
  else note fun r => { r with blocksSkipped := r.blocksSkipped + 1 }

/-! ## Inclusions -/

/-- Hands what a mixin has declared over to the block that includes it, the parameters
excepted. -/
def exportBindings (params : List Param) (env : Environment) : Table Value → Run Unit
  | [] => pure ()
  | (name, v) :: rest => do
    if params.all fun q => q.name != name then declare env name v
    exportBindings params env rest

/-- Includes a mixin: runs it in a frame inside the block, then hands over what it has
declared. -/
def includeMixin (enter : Enter) (env : Environment) (ctx : Context) (loc : Coordinate)
    (name : String) (mixin : Routine) (args : List Argument) : Run Unit := do
  let frame ← child env
  let _ ← enter name mixin args frame ctx loc
  exportBindings mixin.params env (frame.declared (← get).frames)

/-! ## Statements -/

mutual

/-- Runs a statement. -/
def runStatement (p : Provision) (enter : Enter) (env : Environment) (ctx : Context) :
    Statement → Run Flow
  | .declare _ name e => do
    let v ← evaluate p enter env ctx e
    declare env name v
    return .next
  | .conditional _ branches => runBranches p enter env ctx branches
  | .ret _ none => return .returned .null
  | .ret _ (some e) => do return .returned (← evaluate p enter env ctx e)
  | .forRange loc name first last end_ body => do
    let a ← bound first.loc "for loop start" (← evaluate p enter env ctx first)
    let b ← bound last.loc "for loop end" (← evaluate p enter env ctx last)
    let limit := p.settings.limits.maxLoopIterations
    forRange loc limit (fun n => do
      let scope ← child env
      declare scope name (.int n)
      runBlock p enter scope ctx body) a.toInt (rangeCount a b end_) limit
  | .forEach loc key name iterable body => do
    let v ← evaluate p enter env ctx iterable
    match entriesOf? v with
    | none => fail iterable.loc (.notIterable v.typeName)
    | some entries =>
      let limit := p.settings.limits.maxLoopIterations
      forEach loc limit (fun k v => do
        let scope ← child env
        match key with
        | some key => declare scope key k
        | none => pure ()
        declare scope name v
        runBlock p enter scope ctx body) entries limit
  | .whileTrue loc condition body =>
    let limit := p.settings.limits.maxLoopIterations
    whileTrue loc limit (evaluate p enter env ctx condition) (runBlock p enter env ctx body)
      limit
  | .set loc e => do
    setValue ctx loc (← evaluate p enter env ctx e)
    return .next
  | .delete loc => do
    deleteElement ctx loc
    return .next
  | .merge loc e => do
    mergeValue ctx loc (← evaluate p enter env ctx e)
    return .next
  | .field loc key indexer e => do
    let path ← ofExcept loc id (fieldPath key indexer)
    let v ← evaluate p enter env ctx e
    writeField p.settings.fields ctx loc path v
    return .next
  | .includeMixin loc name args => do
    match (Table.get? (← get).mixins name).or (p.registry.mixin? name) with
    | none => fail loc (.unknownMixin name)
    | some mixin =>
      let args ← evaluateArgs p enter env ctx args
      includeMixin enter env ctx loc name mixin args
      return .next
  | .selection loc attributes selector body => do
    select p ctx loc attributes selector fun ctx => do
      let scope ← child env
      let _ ← runBlock p enter scope ctx body
    return .next
  | .expression _ e => do
    let _ ← evaluate p enter env ctx e
    return .next
  | .importLibrary loc name => do
    match p.registry.library? name with
    | none => fail loc (.unknownLibrary name)
    | some library =>
      let _ ← enter name ⟨[], library.statements⟩ [] env.globalScope ctx loc
      return .next
  | .stage _ name priority => do
    note fun r => { r with stages := r.stages ++ [(name, priority)] }
    return .next
  | .function loc none _ _ => fail loc .namelessFunction
  | .function _ (some name) params body => do
    modify fun m => { m with functions := Table.insert m.functions name ⟨params, body⟩ }
    return .next
  | .mixin _ name params body => do
    modify fun m => { m with mixins := Table.insert m.mixins name ⟨params, body⟩ }
    return .next
  | .error loc fault => fail loc (.fault fault)

/-- Runs statements in turn until one of them returns. -/
def runBlock (p : Provision) (enter : Enter) (env : Environment) (ctx : Context) :
    List Statement → Run Flow
  | [] => pure .next
  | s :: rest => do
    match ← runStatement p enter env ctx s with
    | .next => runBlock p enter env ctx rest
    | .returned v => return .returned v

/-- Runs the first branch whose condition is true. -/
def runBranches (p : Provision) (enter : Enter) (env : Environment) (ctx : Context) :
    Branches → Run Flow
  | .nothing => pure .next
  | .otherwise body => do
    let scope ← child env
    runBlock p enter scope ctx body
  | .when _ condition body rest => do
    match ← evaluate p enter env ctx condition with
    | .bool true => do
      let scope ← child env
      runBlock p enter scope ctx body
    | .bool false => runBranches p enter env ctx rest
    | v => fail condition.loc (.notBoolean v.typeName)

end

/-! ## Routines -/

/-- Enters a routine: binds its parameters and runs its body one call deeper, with `levels`
as the number of calls that can still nest. -/
def enterWithin (p : Provision) : (levels : Nat) → Enter
  | 0, _, _, _, _, _, _ => throw .exhausted
  | levels + 1, callee, routine, args, frame, ctx, loc =>
    withCall p.settings.limits.maxCallDepth loc do
      bindArguments (evaluate p (enterWithin p levels) frame ctx) callee routine.params args
        frame loc
      runBlock p (enterWithin p levels) frame ctx routine.body

end Run

/-! ## Patches -/

/-- The machine before a patch runs, with its global scope. -/
def Machine.start (h : Host) : Environment × Machine :=
  let (env, frames) := Environment.start .empty
  (env, { host := h, frames, functions := [], mixins := [], callDepth := 0, report := .blank })

/-- Runs a patch against the tree of a host. Edits that were made before a halt are kept. -/
def Patch.execute (p : Provision) (patch : Patch) (h : Host) : Except Halt Report × Host :=
  let (env, m) := Machine.start h
  let enter := Run.enterWithin p (p.settings.limits.maxCallDepth + 1)
  match Run.runBlock p enter env ⟨Host.root, false, [Host.root]⟩ patch.statements m with
  | .ok _ m => (.ok m.report, m.host)
  | .error halt m => (.error halt, m.host)

/-! ## Several patches -/

/-- What has become of one of several patches. -/
inductive Outcome where
  | applied (report : Report)
  /-- The patch is faulty and was not run. -/
  | skipped
  | failed (failure : Failure)
  deriving Repr, DecidableEq

/-- The outcome of a patch that was run, unless it has taken the whole program down. -/
def Outcome.ofResult? : Except Halt Report → Option Outcome
  | .ok report => some (.applied report)
  | .error (.failed failure) => some (.failed failure)
  | .error .trapped => none
  | .error .exhausted => none

/-- What runs patches, one after the other. It keeps what the last run has left behind, whether
that has come to its end or failed in the middle. -/
structure Interpreter where
  /-- The global scope of the last run. -/
  globals : Environment
  /-- All frames that were opened in any run. -/
  frames : Frames
  functions : Table Routine
  mixins : Table Routine
  callDepth : Nat
  report : Report

namespace Interpreter

/-- An interpreter that has not run anything. -/
def fresh : Interpreter :=
  let (globals, frames) := Environment.start .empty
  { globals, frames, functions := [], mixins := [], callDepth := 0, report := .blank }

/-- The machine on which the next patch is run: with a new global scope, without routines, outside
of all calls, and with a blank report. -/
def start (i : Interpreter) (h : Host) : Environment × Machine :=
  let (globals, frames) := Environment.start i.frames
  (globals, { host := h, frames, functions := [], mixins := [], callDepth := 0, report := .blank })

/-- The interpreter that a machine leaves behind, with this report. -/
def behind (globals : Environment) (m : Machine) (report : Report) : Interpreter :=
  ⟨globals, m.frames, m.functions, m.mixins, m.callDepth, report⟩

/-- Runs a patch against the tree of a host. The report is handed out, unless the run halts; then
it stays with what else was under way. -/
def execute (p : Provision) (i : Interpreter) (patch : Patch) (h : Host) :
    Except Halt Report × Host × Interpreter :=
  let (globals, m) := i.start h
  let enter := Run.enterWithin p (p.settings.limits.maxCallDepth + 1)
  match Run.runBlock p enter globals ⟨Host.root, false, [Host.root]⟩ patch.statements m with
  | .ok _ m => (.ok m.report, m.host, behind globals m .blank)
  | .error halt m => (.error halt, m.host, behind globals m m.report)

/-- Applies a patch: a faulty one is skipped, any other is run. -/
def apply (p : Provision) (i : Interpreter) (patch : Patch) (h : Host) :
    Option (Outcome × Host × Interpreter) :=
  if patch.faulty then some (.skipped, h, i)
  else
    let (result, h, i) := i.execute p patch h
    (Outcome.ofResult? result).map fun outcome => (outcome, h, i)

/-- Applies patches in turn. One that fails does not keep the others from being run, but nothing
comes of any if one takes the program down. -/
def applyAll (p : Provision) :
    Interpreter → List Patch → Host → Option (List Outcome × Host × Interpreter)
  | i, [], h => some ([], h, i)
  | i, patch :: rest, h => do
    let (outcome, h, i) ← i.apply p patch h
    let (outcomes, h, i) ← applyAll p i rest h
    return (outcome :: outcomes, h, i)

end Interpreter

end Graft
