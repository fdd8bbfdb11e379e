/-!
The operators of expressions and their symbols, and the two kinds of ranges.
-/

set_option autoImplicit false

namespace Graft

/-- An operator before its operand. -/
inductive UnaryOp where
  | negate
  | plus
  | not
  deriving Repr, DecidableEq, Inhabited

/-- An operator between two operands. -/
inductive BinaryOp where
  | equal
  | notEqual
  | lessThan
  | greaterThan
  | lessEqual
  | greaterEqual
  | add
  | subtract
  | multiply
  | divide
  | modulo
  | and
  | or
  deriving Repr, DecidableEq, Inhabited

/-- The operator as it is written. -/
def UnaryOp.symbol : UnaryOp → String
  | negate => "-"
  | plus => "+"
  | not => "not"

/-- The operator as it is written. -/
def BinaryOp.symbol : BinaryOp → String
  | equal => "=="
  | notEqual => "!="
  | lessThan => "<"
  | greaterThan => ">"
  | lessEqual => "<="
  | greaterEqual => ">="
  | add => "+"
  | subtract => "-"
  | multiply => "*"
  | divide => "/"
  | modulo => "%"
  | and => "and"
  | or => "or"

/-- How far a range loop goes. -/
inductive RangeEnd where
  /-- Up to, but not including, the end. -/
  | exclusive
  /-- Up to the end. -/
  | inclusive
  deriving Repr, DecidableEq, Inhabited

end Graft
