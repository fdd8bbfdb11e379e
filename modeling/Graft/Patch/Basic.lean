import Graft.Coordinate
import Graft.Patch.Operator
import Graft.Selector.Basic
import Graft.Text.Quoted
import Graft.Value.Basic

/-!
Patches: documents whose tokens have been read.

A patch has one type of statement for all levels. What could not be read is an error node
in its place, with the fault that was found, and the patch as a whole is marked as faulty.
Function bodies, selections and documents are lists of statements; a conditional is a chain
of branches that ends in an alternative or in nothing.
-/

set_option autoImplicit false

namespace Graft

/-- What can be wrong with a token or a list of parameters. -/
inductive Fault where
  /-- A token with an escape that names no character. -/
  | escape (error : Text.EscapeError)
  /-- A stage priority that is no unsigned word. -/
  | priority
  /-- An index that is no unsigned word. -/
  | index
  /-- A number that is neither a signed word nor a double. -/
  | number (text : String)
  /-- A parameter without default behind one with a default. -/
  | defaults
  deriving Repr, DecidableEq

/-- The fault in words. -/
def Fault.message : Fault → String
  | escape error => error.message
  | priority => "stage priority must be an unsigned integer"
  | index => "Index must be a positive integer"
  | number text => "`" ++ text ++ "` must be parsable as a double precision floating point number"
  | defaults => "arguments with default values must come after all required arguments"

/-- What stands in the brackets of a field statement. -/
inductive Indexer where
  | position (loc : Coordinate) (index : UInt64)
  | ofType (loc : Coordinate) (tag : String)
  | ofClass (loc : Coordinate) (tag : String)
  | key (loc : Coordinate) (name : String)
  | error (loc : Coordinate) (fault : Fault)
  deriving Repr, DecidableEq

/-- A condition on running a selection. -/
inductive Attribute where
  | requireMod (loc : Coordinate) (name : String)
  | requireNotMod (loc : Coordinate) (name : String)
  | runAtStage (loc : Coordinate) (stage : String)
  deriving Repr, DecidableEq

mutual

/-- An expression. -/
inductive Expr where
  | literal (loc : Coordinate) (value : Value)
  | variable (loc : Coordinate) (name : String)
  | localVariable (loc : Coordinate) (name : String)
  | unary (loc : Coordinate) (op : UnaryOp) (operand : Expr)
  | binary (loc : Coordinate) (op : BinaryOp) (left right : Expr)
  | subscript (loc : Coordinate) (target index : Expr)
  | call (loc : Coordinate) (name : String) (args : List Arg)
  | memberCall (loc : Coordinate) (target : Expr) (name : String) (args : List Arg)
  | ternary (loc : Coordinate) (condition whenTrue whenFalse : Expr)
  | list (loc : Coordinate) (items : List Expr)
  | object (loc : Coordinate) (entries : List Entry)
  | closure (loc : Coordinate) (params : List Param) (body : List Statement)
  | error (loc : Coordinate) (fault : Fault)

/-- An argument of a call. -/
inductive Arg where
  | mk (loc : Coordinate) (name : Option String) (value : Expr)

/-- An entry of an object. -/
inductive Entry where
  | mk (loc : Coordinate) (key : String) (value : Expr)

/-- A parameter of a function, closure or mixin. -/
inductive Param where
  | mk (loc : Coordinate) (name : String) (default : Option Expr)

/-- A statement. -/
inductive Statement where
  | declare (loc : Coordinate) (name : String) (value : Expr)
  | conditional (loc : Coordinate) (branches : Branches)
  | ret (loc : Coordinate) (value : Option Expr)
  | forRange (loc : Coordinate) (name : String) (first last : Expr) (end_ : RangeEnd)
      (body : List Statement)
  | forEach (loc : Coordinate) (key : Option String) (name : String) (iterable : Expr)
      (body : List Statement)
  | whileTrue (loc : Coordinate) (condition : Expr) (body : List Statement)
  | set (loc : Coordinate) (value : Expr)
  | delete (loc : Coordinate)
  | merge (loc : Coordinate) (value : Expr)
  | field (loc : Coordinate) (key : String) (indexer : Option Indexer) (value : Expr)
  | includeMixin (loc : Coordinate) (name : String) (args : List Arg)
  | selection (loc : Coordinate) (attributes : List Attribute) (selector : Selector)
      (body : List Statement)
  | expression (loc : Coordinate) (value : Expr)
  | importLibrary (loc : Coordinate) (name : String)
  | stage (loc : Coordinate) (name : String) (priority : UInt64)
  | function (loc : Coordinate) (name : Option String) (params : List Param)
      (body : List Statement)
  | mixin (loc : Coordinate) (name : String) (params : List Param) (body : List Statement)
  | error (loc : Coordinate) (fault : Fault)

/-- The branches of a conditional, tried in order. -/
inductive Branches where
  /-- No branch is left. -/
  | nothing
  /-- Runs where no condition was true. -/
  | otherwise (body : List Statement)
  | when (loc : Coordinate) (condition : Expr) (body : List Statement) (rest : Branches)

end

instance : Inhabited Expr := ⟨.literal .origin .null⟩
instance : Inhabited Statement := ⟨.delete .origin⟩

/-- Where an expression stands. -/
def Expr.loc : Expr → Coordinate
  | .literal l _ => l
  | .variable l _ => l
  | .localVariable l _ => l
  | .unary l _ _ => l
  | .binary l _ _ _ => l
  | .subscript l _ _ => l
  | .call l _ _ => l
  | .memberCall l _ _ _ => l
  | .ternary l _ _ _ => l
  | .list l _ => l
  | .object l _ => l
  | .closure l _ _ => l
  | .error l _ => l

/-- Where a statement stands. -/
def Statement.loc : Statement → Coordinate
  | .declare l _ _ => l
  | .conditional l _ => l
  | .ret l _ => l
  | .forRange l _ _ _ _ _ => l
  | .forEach l _ _ _ _ => l
  | .whileTrue l _ _ => l
  | .set l _ => l
  | .delete l => l
  | .merge l _ => l
  | .field l _ _ _ => l
  | .includeMixin l _ _ => l
  | .selection l _ _ _ => l
  | .expression l _ => l
  | .importLibrary l _ => l
  | .stage l _ _ => l
  | .function l _ _ _ => l
  | .mixin l _ _ _ => l
  | .error l _ => l

/-- The name of a parameter. -/
def Param.name : Param → String
  | .mk _ name _ => name

/-- The default of a parameter. -/
def Param.default : Param → Option Expr
  | .mk _ _ default => default

/-- No parameter without default follows one that has a default. -/
def defaultsTrail (params : List Param) : Bool :=
  (params.dropWhile fun p => p.default.isNone).all fun p => p.default.isSome

theorem defaultsTrail_iff (params : List Param) :
    defaultsTrail params = true ↔
      params.Pairwise fun p q => p.default.isSome = true → q.default.isSome = true := by
  induction params with
  | nil => simp [defaultsTrail]
  | cons p rest ih =>
    rw [List.pairwise_cons]
    cases hp : p.default with
    | none =>
      -- A parameter without default asks nothing of those behind it.
      have hskip : defaultsTrail (p :: rest) = defaultsTrail rest := by
        simp [defaultsTrail, hp]
      rw [hskip, ih]
      simp
    | some e =>
      have hstop : defaultsTrail (p :: rest) = rest.all fun p => p.default.isSome := by
        simp [defaultsTrail, hp]
      rw [hstop, List.all_eq_true]
      constructor
      · intro h
        refine ⟨fun q hq _ => h q hq, List.pairwise_iff_forall_sublist.mpr fun hsub _ => ?_⟩
        exact h _ (hsub.subset (by simp))
      · exact fun h q hq => h.1 q hq rfl

/-- A whole document. -/
structure Patch where
  loc : Coordinate
  statements : List Statement
  /-- Something in the document could not be read. -/
  faulty : Bool
  deriving Inhabited

/-- The stages a document defines at its top, with their priorities. -/
def Patch.stages (p : Patch) : List (String × UInt64) :=
  p.statements.filterMap fun
    | .stage _ name priority => some (name, priority)
    | _ => none

/-- The stage that a selection's attributes bind it to; the first one counts. -/
def stageOf? (attributes : List Attribute) : Option String :=
  attributes.findSome? fun
    | .runAtStage _ stage => some stage
    | _ => none

end Graft
