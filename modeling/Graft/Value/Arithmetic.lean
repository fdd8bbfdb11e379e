import Graft.Number.Decimal
import Graft.Number.FloatText
import Graft.Patch.Operator
import Graft.Value.Basic

/-!
Operators on values.

Whole numbers are computed exactly and an operation whose result is no 64-bit signed number
is an error; only a quotient that is not whole becomes a double. Two doubles follow the
arithmetic of doubles. A whole number and a double meet as decimals (see
`Graft.Number.Decimal`), and where the decimals give out, as doubles. Texts can be joined
and compared; everything else takes part in equality and in truth only.

One pair of whole numbers has no answer at all: the quotient of the least one by -1 traps,
since whether it is whole is asked of a remainder that the machine cannot form.
-/

set_option autoImplicit false

namespace Graft

/-- Why an operator gives no value. -/
inductive OperatorError where
  /-- A unary operator on a kind it is not defined on. -/
  | unaryMismatch (op : UnaryOp) (found : String)
  /-- An arithmetic operator on kinds it is not defined on. -/
  | mismatch (op : BinaryOp) (left right : String)
  /-- A comparison of kinds that have no common order. -/
  | incomparable (op : BinaryOp) (left right : String)
  /-- A comparison with a not-a-number. -/
  | unordered (left right : Float)
  /-- A result outside the 64-bit signed numbers. -/
  | overflow (op : BinaryOp) (left right : Int64)
  /-- The least number has no opposite. -/
  | negateOverflow (n : Int64)
  | divisionByZero
  /-- The operation has no outcome: the program stops. -/
  | trap
  deriving Repr, DecidableEq

/-- The error in words. -/
def OperatorError.message : OperatorError → String
  | unaryMismatch op found => "cannot apply unary " ++ op.symbol ++ " to " ++ found
  | mismatch op left right => "cannot apply " ++ op.symbol ++ " to " ++ left ++ " and " ++ right
  | incomparable op left right => "cannot compare " ++ left ++ " " ++ op.symbol ++ " " ++ right
  | unordered left right =>
    "cannot order " ++ FloatFormat.message.text left ++ " and " ++ FloatFormat.message.text right
  | overflow op left right =>
    "integer overflow in " ++ Numeral.signedDecimal left.toInt ++ " " ++ op.symbol ++ " " ++
      Numeral.signedDecimal right.toInt
  | negateOverflow n => "integer overflow: cannot negate " ++ Numeral.signedDecimal n.toInt
  | divisionByZero => "division by zero"
  | trap => "division traps"

/-- The word of a number in its range. -/
def int64OfInt? (n : Int) : Option Int64 :=
  if Numeral.isSigned n then some (Int64.ofInt n) else none

namespace Value

/-! ## Equality and order -/

/-- Equality as the operators have it: a whole number, as the double nearest to it, and a
double compare by value, any other pair by structure. -/
def equals : Value → Value → Bool
  | int a, float b => Binary64.ofInt a.toInt == b
  | float a, int b => Binary64.ofInt b.toInt == a
  | a, b => same a b

/-- The order of two doubles, if they have one. -/
def orderFloats? (a b : Float) : Option Ordering :=
  if a < b then some .lt else if b < a then some .gt else if a == b then some .eq else none

/-- The order of two numbers or two texts; texts by code points. -/
def order (op : BinaryOp) : Value → Value → Except OperatorError Ordering
  | int a, int b => .ok (compare a.toInt b.toInt)
  | string a, string b => .ok (compare a b)
  | a, b =>
    match a.toFloat?, b.toFloat? with
    | some x, some y =>
      match orderFloats? x y with
      | some o => .ok o
      | none => .error (.unordered x y)
    | _, _ => .error (.incomparable op a.typeName b.typeName)

/-! ## Arithmetic -/

/-- An exact result, if it is in range. -/
def exactly (op : BinaryOp) (a b : Int64) (n : Int) : Except OperatorError Value :=
  match int64OfInt? n with
  | some w => .ok (int w)
  | none => .error (.overflow op a b)

/-- Arithmetic of whole numbers. The remainder of the least number by -1 counts as an
overflow, although it would be zero. -/
def integerArithmetic (op : BinaryOp) (a b : Int64) : Except OperatorError Value :=
  let x := a.toInt
  let y := b.toInt
  match op with
  | .add => exactly op a b (x + y)
  | .subtract => exactly op a b (x - y)
  | .multiply => exactly op a b (x * y)
  | .divide =>
    if y = 0 then .error .divisionByZero
    else if x = -(Numeral.signedBound : Int) && y = -1 then .error .trap
    else if Int.tmod x y ≠ 0 then .ok (float (a.toFloat / b.toFloat))
    else exactly op a b (Int.tdiv x y)
  | .modulo =>
    if y = 0 then .error .divisionByZero
    else if x = -(Numeral.signedBound : Int) && y = -1 then .error (.overflow op a b)
    else exactly op a b (Int.tmod x y)
  | _ => .error (.overflow op a b)

/-- Arithmetic of doubles. -/
def floatArithmetic (op : BinaryOp) (a b : Float) : Float :=
  match op with
  | .add => a + b
  | .subtract => a - b
  | .multiply => a * b
  | .divide => a / b
  | _ => Binary64.remainder a b

/-- Arithmetic of decimals. -/
def decimalArithmetic? (op : BinaryOp) (a b : Decimal) : Option Decimal :=
  match op with
  | .add => a.add? b
  | .subtract => a.sub? b
  | .multiply => a.mul? b
  | .divide => a.div? b
  | _ => a.rem? b

/-- Arithmetic where a whole number meets a double: by decimals, or else by doubles. -/
def mixedArithmetic (op : BinaryOp) (a b : Float) : Float :=
  let viaDecimals := do
    let x ← Decimal.ofFloat? a
    let y ← Decimal.ofFloat? b
    decimalArithmetic? op x y
  match viaDecimals with
  | some d => d.toFloat
  | none => floatArithmetic op a b

/-- An arithmetic operator. -/
def arithmetic (op : BinaryOp) : Value → Value → Except OperatorError Value
  | int a, int b => integerArithmetic op a b
  | float a, float b => .ok (float (floatArithmetic op a b))
  | int a, float b => .ok (float (mixedArithmetic op a.toFloat b))
  | float a, int b => .ok (float (mixedArithmetic op a b.toFloat))
  | a, b => .error (.mismatch op a.typeName b.typeName)

/-- A unary operator. -/
def unary : UnaryOp → Value → Except OperatorError Value
  | .not, v => .ok (bool !v.isTruthy)
  | .negate, int n =>
    match int64OfInt? (-n.toInt) with
    | some w => .ok (int w)
    | none => .error (.negateOverflow n)
  | .negate, float x => .ok (float (-x))
  | .plus, int n => .ok (int n)
  | .plus, float x => .ok (float x)
  | op, v => .error (.unaryMismatch op v.typeName)

/-- A binary operator on two values that are both there; skipping the right operand of
`and` and `or` is the business of evaluation. -/
def binary (op : BinaryOp) (left right : Value) : Except OperatorError Value :=
  match op with
  | .equal => .ok (bool (equals left right))
  | .notEqual => .ok (bool !(equals left right))
  | .lessThan => (order op left right).map fun o => bool o.isLT
  | .greaterThan => (order op left right).map fun o => bool o.isGT
  | .lessEqual => (order op left right).map fun o => bool o.isLE
  | .greaterEqual => (order op left right).map fun o => bool o.isGE
  | .and => .ok (bool (left.isTruthy && right.isTruthy))
  | .or => .ok (bool (left.isTruthy || right.isTruthy))
  | .add =>
    match left, right with
    | string a, string b => .ok (string (a ++ b))
    | _, _ => arithmetic op left right
  | .subtract => arithmetic op left right
  | .multiply => arithmetic op left right
  | .divide => arithmetic op left right
  | .modulo => arithmetic op left right

/-- A double rounded to decimal places, a half away from zero; what is no decimal stays as
it is. -/
def roundFloat (x : Float) (places : Nat) : Float :=
  match Decimal.ofFloat? x with
  | some d => (d.roundTo places).toFloat
  | none => x

end Value

end Graft
