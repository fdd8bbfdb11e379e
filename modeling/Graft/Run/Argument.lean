import Graft.Run.Machine

/-!
Arguments of calls, and how they find their parameters.

An argument without a name fills the next parameter in order, a named one the first
parameter of its name. Filling looks at the arguments alone; the defaults of the
parameters that stay empty are evaluated when the parameters are bound, each in a frame
that holds those before it.
-/

set_option autoImplicit false

namespace Graft

/-- A closure: parameters and a body, with the scopes it was written in. -/
structure Closure where
  params : List Param
  body : List Statement
  env : Environment

/-- What is handed over in a call. -/
inductive Actual where
  | value (v : Value)
  | closure (c : Closure)

/-- An evaluated argument. -/
structure Argument where
  loc : Coordinate
  name : Option String
  actual : Actual

/-- An argument without a name. -/
def Argument.plain (loc : Coordinate) (v : Value) : Argument :=
  ⟨loc, none, .value v⟩

/-- How far filling has come: the parameters with what fills them, the position of the next
argument without a name, and whether a named one has been seen. -/
structure Slots where
  filled : List (Param × Option Value)
  next : Nat
  named : Bool

namespace Slots

/-- Nothing is filled. -/
def blank (params : List Param) : Slots :=
  ⟨params.map fun p => (p, none), 0, false⟩

/-- The position of the parameter that an argument is for. -/
def position (callee : String) (slots : Slots) (name : Option String) : Except Cause Nat :=
  match name with
  | none =>
    if slots.named then .error .positionalAfterNamed
    else if slots.filled.length ≤ slots.next then
      .error (.tooManyArguments callee slots.filled.length)
    else .ok slots.next
  | some name =>
    match slots.filled.findIdx? fun (p, _) => p.name == name with
    | some i => .ok i
    | none => .error (.unknownParameter callee name)

/-- Puts a value into the slot of a position. -/
def put (slots : Slots) (i : Nat) (v : Value) : Except Cause (List (Param × Option Value)) :=
  match slots.filled[i]? with
  | some (p, none) => .ok (slots.filled.set i (p, some v))
  | some (p, some _) => .error (.givenTwice p.name)
  | none => .ok slots.filled

/-- Fills the slot of one argument. -/
def fill (callee : String) (slots : Slots) (arg : Argument) : Except Cause Slots :=
  match arg.actual with
  | .closure _ => .error (.closureRejected callee)
  | .value v => do
    let i ← slots.position callee arg.name
    return {
      filled := ← slots.put i v
      next := if arg.name.isNone then slots.next + 1 else slots.next
      named := slots.named || arg.name.isSome }

/-- Fills the slots of several arguments in turn; an error comes with the place of its
argument. -/
def fillAll (callee : String) : Slots → List Argument → Except (Coordinate × Cause) Slots
  | slots, [] => .ok slots
  | slots, arg :: rest =>
    match slots.fill callee arg with
    | .ok slots => fillAll callee slots rest
    | .error cause => .error (arg.loc, cause)

end Slots

namespace Run

/-- Binds parameters in a frame, those without an argument to their defaults. -/
def bindSlots (evaluate : Expr → Run Value) (callee : String) (frame : Environment)
    (loc : Coordinate) : List (Param × Option Value) → Run Unit
  | [] => pure ()
  | (p, filled) :: rest => do
    let v ← match filled, p.default with
      | some v, _ => pure v
      | none, some default => evaluate default
      | none, none => fail loc (.missingArgument callee p.name)
    declare frame p.name v
    bindSlots evaluate callee frame loc rest

/-- Binds the parameters of a routine to the arguments of a call. -/
def bindArguments (evaluate : Expr → Run Value) (callee : String) (params : List Param)
    (args : List Argument) (frame : Environment) (loc : Coordinate) : Run Unit :=
  match (Slots.blank params).fillAll callee args with
  | .ok slots => bindSlots evaluate callee frame loc slots.filled
  | .error (loc, cause) => fail loc cause

end Run

end Graft
