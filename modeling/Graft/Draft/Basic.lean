import Graft.Coordinate
import Graft.Patch.Operator

/-!
Drafts: patches as a grammar hands them over.

A draft is a tree of grammar alternatives whose tokens are still raw. Numbers and
priorities are unparsed, names and strings keep quotes and escapes, references keep their
marks (`$name`, `%name`, `#name`, `.class`, `:ruleset`, `+type`, `~#name`, `~.class`).
Statements come at three levels, and each level has a type of its own: the top of a
document, the body of a selection or mixin, and the body of a function or closure.
-/

set_option autoImplicit false

namespace Graft.Draft

/-! ## Expressions and function bodies -/

mutual

/-- An expression. -/
inductive Expr where
  | number (loc : Coordinate) (text : String)
  | string (loc : Coordinate) (text : String)
  | boolean (loc : Coordinate) (value : Bool)
  | null (loc : Coordinate)
  | deletion (loc : Coordinate)
  | variable (loc : Coordinate) (text : String)
  | localVariable (loc : Coordinate) (text : String)
  | unary (loc : Coordinate) (op : UnaryOp) (operand : Expr)
  | binary (loc : Coordinate) (op : BinaryOp) (left right : Expr)
  | subscript (loc : Coordinate) (target index : Expr)
  | call (loc : Coordinate) (name : String) (args : List Arg)
  | memberCall (loc : Coordinate) (target : Expr) (name : String) (args : List Arg)
  | ternary (loc : Coordinate) (condition whenTrue whenFalse : Expr)
  | list (loc : Coordinate) (items : List Expr)
  | object (loc : Coordinate) (entries : List Entry)
  | closure (loc : Coordinate) (params : List Param) (body : List FunctionStatement)

/-- An argument of a call. -/
inductive Arg where
  | mk (loc : Coordinate) (name : Option String) (value : Expr)

/-- An entry of an object. -/
inductive Entry where
  | mk (loc : Coordinate) (key : String) (value : Expr)

/-- A parameter of a function, closure or mixin. -/
inductive Param where
  | mk (loc : Coordinate) (name : String) (default : Option Expr)

/-- A statement of a function or closure. -/
inductive FunctionStatement where
  | declare (loc : Coordinate) (name : String) (value : Expr)
  | ret (loc : Coordinate) (value : Option Expr)
  | expression (loc : Coordinate) (value : Expr)
  | conditional (loc : Coordinate) (condition : Expr) (body : List FunctionStatement)
      (elseIfs : List FunctionElseIf) (otherwise : Option (List FunctionStatement))
  | forRange (loc : Coordinate) (name : String) (first last : Expr) (end_ : RangeEnd)
      (body : List FunctionStatement)
  | forEach (loc : Coordinate) (key : Option String) (name : String) (iterable : Expr)
      (body : List FunctionStatement)
  | whileTrue (loc : Coordinate) (condition : Expr) (body : List FunctionStatement)

/-- A further branch of a conditional in a function. -/
inductive FunctionElseIf where
  | mk (loc : Coordinate) (condition : Expr) (body : List FunctionStatement)

end

instance : Inhabited Expr := ⟨.null .origin⟩

/-! ## Selectors -/

/-- A selector. -/
inductive Selector where
  | ofType (loc : Coordinate) (text : String)
  | withName (loc : Coordinate) (text : String)
  | withClass (loc : Coordinate) (text : String)
  | ruleset (loc : Coordinate) (text : String)
  | wildcard (loc : Coordinate)
  | withoutClass (loc : Coordinate) (text : String)
  | withoutName (loc : Coordinate) (text : String)
  | child (loc : Coordinate) (above below : Selector)
  | intersection (loc : Coordinate) (left right : Selector)
  | combination (loc : Coordinate) (left right : Selector)
  | addition (loc : Coordinate) (text : String)
  deriving Inhabited

/-- A condition on running a selection. -/
inductive Attribute where
  | requireMod (loc : Coordinate) (text : String)
  | requireNotMod (loc : Coordinate) (text : String)
  | runAtStage (loc : Coordinate) (text : String)
  deriving Inhabited

/-- What stands in the brackets of a field statement. -/
inductive Indexer where
  | position (loc : Coordinate) (text : String)
  | ofType (loc : Coordinate) (text : String)
  | ofClass (loc : Coordinate) (text : String)
  | key (loc : Coordinate) (text : String)
  deriving Inhabited

/-! ## Statements that edit, and whole documents -/

mutual

/-- A statement of a selection or mixin. -/
inductive BlockStatement where
  | declare (loc : Coordinate) (name : String) (value : Expr)
  | field (loc : Coordinate) (key : String) (indexer : Option Indexer) (value : Expr)
  | set (loc : Coordinate) (value : Expr)
  | delete (loc : Coordinate)
  | merge (loc : Coordinate) (value : Expr)
  | includeMixin (loc : Coordinate) (name : String) (args : List Arg)
  | selection (loc : Coordinate) (attributes : List Attribute) (selector : Selector)
      (body : List BlockStatement)
  | conditional (loc : Coordinate) (condition : Expr) (body : List BlockStatement)
      (elseIfs : List BlockElseIf) (otherwise : Option (List BlockStatement))
  | forRange (loc : Coordinate) (name : String) (first last : Expr) (end_ : RangeEnd)
      (body : List BlockStatement)
  | forEach (loc : Coordinate) (key : Option String) (name : String) (iterable : Expr)
      (body : List BlockStatement)
  | whileTrue (loc : Coordinate) (condition : Expr) (body : List BlockStatement)

/-- A further branch of a conditional in a selection or mixin. -/
inductive BlockElseIf where
  | mk (loc : Coordinate) (condition : Expr) (body : List BlockStatement)

end

mutual

/-- A statement at the top of a document. -/
inductive TopStatement where
  | importLibrary (loc : Coordinate) (text : String)
  | declare (loc : Coordinate) (name : String) (value : Expr)
  | stage (loc : Coordinate) (name priority : String)
  | selection (loc : Coordinate) (attributes : List Attribute) (selector : Selector)
      (body : List BlockStatement)
  | function (loc : Coordinate) (name : String) (params : List Param)
      (body : List FunctionStatement)
  | mixin (loc : Coordinate) (name : String) (params : List Param) (body : List BlockStatement)
  | conditional (loc : Coordinate) (condition : Expr) (body : List TopStatement)
      (elseIfs : List TopElseIf) (otherwise : Option (List TopStatement))

/-- A further branch of a conditional at the top of a document. -/
inductive TopElseIf where
  | mk (loc : Coordinate) (condition : Expr) (body : List TopStatement)

end

end Graft.Draft

namespace Graft

/-- A whole document. -/
structure Draft where
  loc : Coordinate
  statements : List Draft.TopStatement
  deriving Inhabited

end Graft
