import Graft.Registry
import Graft.Run.Failure
import Graft.Run.Scope
import Graft.Settings.Basic

/-!
The machine that runs a patch: its state, the computations on it, and their primitives.

A computation reads and changes the state and ends in an answer or in a halt. A halt keeps
the state as it is: edits that were made before a failure stay made. The depth of calls is
part of the state and is taken back on every way out of a call.
-/

set_option autoImplicit false

namespace Graft

/-- What a run is provided with. -/
structure Provision where
  registry : Registry
  settings : Settings

/-- What a run has done. -/
structure Report where
  /-- The stages that were defined, in the order in which they were reached. -/
  stages : List (String × UInt64)
  blocksRun : Nat
  blocksSkipped : Nat
  /-- The elements that selections have yielded, the latest selection first. -/
  matched : List ElementId
  edits : Nat
  deriving Repr, DecidableEq

/-- The report of a run that has done nothing. -/
def Report.blank : Report := ⟨[], 0, 0, [], 0⟩

/-- How many elements selections have yielded. -/
def Report.elementsMatched (r : Report) : Nat := r.matched.length

/-- The state of a run. -/
structure Machine where
  host : Host
  frames : Frames
  /-- The functions that the patch has defined so far. -/
  functions : Table Routine
  /-- The mixins that the patch has defined so far. -/
  mixins : Table Routine
  /-- The calls, inclusions and imports that are under way. -/
  callDepth : Nat
  report : Report

/-- The ways in which a run can end without an answer. -/
inductive Halt where
  | failed (failure : Failure)
  /-- An operation had no outcome and took the whole program down. -/
  | trapped
  /-- The nesting of calls that was provided for is used up. -/
  | exhausted
  deriving Repr, DecidableEq

/-- A computation of the machine. -/
abbrev Run (α : Type) : Type := EStateM Halt Machine α

/-- How a list of statements ends. -/
inductive Flow where
  | next
  /-- A return statement was reached. -/
  | returned (v : Value)
  deriving Inhabited

/-- What a call yields that ends in this way. -/
def Flow.value : Flow → Value
  | next => .null
  | returned v => v

/-- The element that statements run against. -/
structure Context where
  element : ElementId
  /-- The element is selected and open for edits. -/
  selected : Bool
  /-- The elements that the run still holds. -/
  held : List ElementId
  deriving Repr, DecidableEq, Inhabited

namespace Run

variable {α : Type}

/-- Stops with a cause at a place. -/
def fail (loc : Coordinate) (cause : Cause) : Run α :=
  throw (if cause = .operator .trap then .trapped else .failed ⟨loc, cause⟩)

/-- The answer of a check or an operation, whose errors are causes at a place. -/
def ofExcept {ε : Type} (loc : Coordinate) (cause : ε → Cause) : Except ε α → Run α
  | .ok a => pure a
  | .error e => fail loc (cause e)

/-! ## Scopes -/

/-- Opens a frame inside an environment. -/
def child (env : Environment) : Run Environment :=
  modifyGet fun m =>
    let (env, frames) := env.child m.frames
    (env, { m with frames })

/-- Opens a frame directly inside the global one. -/
def callFrame (env : Environment) : Run Environment :=
  modifyGet fun m =>
    let (env, frames) := env.callFrame m.frames
    (env, { m with frames })

/-- Binds a name in the innermost frame. -/
def declare (env : Environment) (name : String) (v : Value) : Run Unit :=
  modify fun m => { m with frames := env.declare m.frames name v }

/-! ## Calls -/

/-- Runs something one call deeper, if the limit admits it. -/
def withCall (limit : Nat) (loc : Coordinate) (act : Run α) : Run α := fun m =>
  if limit ≤ m.callDepth then fail loc (.callLimit limit) m
  else match act { m with callDepth := m.callDepth + 1 } with
    | .ok a m => .ok a { m with callDepth := m.callDepth - 1 }
    | .error e m => .error e { m with callDepth := m.callDepth - 1 }

/-! ## Edits -/

/-- The element that an edit is meant for. -/
def target (ctx : Context) (loc : Coordinate) (site : EditSite) : Run ElementId :=
  if ctx.selected then pure ctx.element else fail loc (.outsideSelection site)

/-- Puts an edit to the host and counts it if it is accepted. -/
def edit (loc : Coordinate) (change : Host → Except HostError Host) : Run Unit := fun m =>
  match change m.host with
  | .ok host => .ok () { m with host, report := { m.report with edits := m.report.edits + 1 } }
  | .error e => fail loc (.host e) m

/-- Changes the report. -/
def note (change : Report → Report) : Run Unit :=
  modify fun m => { m with report := change m.report }

end Run

end Graft
