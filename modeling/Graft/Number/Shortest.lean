import Graft.Number.Binary64

/-!
The shortest decimal that reads back as a given double.

A double stands for all reals that round to it: an interval around it whose ends belong to
it when its mantissa is even. For one, two, … seventeen digits, the two neighbours of the
double on the grid of decimals with that many digits are tested; the first grid with a
neighbour in the interval gives the result, the nearer neighbour if both are inside. A
grid with any point in the interval has one of those two in it, so no shorter decimal is
missed. How an exact tie goes is the caller's rule.
-/

set_option autoImplicit false

namespace Graft.Shortest

/-- Which of two equally near decimals is taken. -/
inductive Tie where
  /-- The one farther from zero. -/
  | up
  /-- The one whose last digit is even. -/
  | even
  deriving Repr, DecidableEq

/-- `significand * 10 ^ exponent`. -/
structure Decimal where
  significand : Nat
  exponent : Int
  deriving Repr, DecidableEq

/-- Compares `a * 2 ^ p` with `b * 10 ^ k`. -/
def compareScaled (a : Nat) (p : Int) (b : Nat) (k : Int) : Ordering :=
  compare (a * twoTo p.toNat * tenTo (-k).toNat) (b * tenTo k.toNat * twoTo (-p).toNat)

/-- The whole part of `a * 2 ^ p / 10 ^ k`. -/
def floorScaled (a : Nat) (p : Int) (k : Int) : Nat :=
  (a * twoTo p.toNat * tenTo (-k).toNat) / (tenTo k.toNat * twoTo (-p).toNat)

/-- The reals that round to a double, in quarters of its last place. -/
structure Interval where
  low : Nat
  mid : Nat
  high : Nat
  exponent : Int
  closed : Bool

/-- The interval of a positive double. Below a power of two the doubles lie twice as
dense, so the interval is shorter on that side. -/
def Interval.of (mantissa : Nat) (exponent : Int) : Interval where
  low := 4 * mantissa -
    if mantissa = Binary64.hiddenBit && Binary64.leastExponent < exponent then 1 else 2
  mid := 4 * mantissa
  high := 4 * mantissa + 2
  exponent := exponent - 2
  closed := mantissa % 2 == 0

/-- Whether `b * 10 ^ k` lies in the interval. -/
def Interval.holds (i : Interval) (b : Nat) (k : Int) : Bool :=
  let low := compareScaled i.low i.exponent b k
  let high := compareScaled i.high i.exponent b k
  if i.closed then low.isLE && high.isGE else low.isLT && high.isGT

/-- The least `e` with the middle of the interval below `10 ^ e`. -/
def Interval.magnitude (i : Interval) : Int :=
  let guess := ((i.mid.log2 : Int) + i.exponent) * 30103 / 100000
  if (compareScaled i.mid i.exponent 1 guess).isLT then guess
  else if (compareScaled i.mid i.exponent 1 (guess + 1)).isLT then guess + 1
  else guess + 2

/-- The point of the grid of multiples of `10 ^ k` that stands for the interval, if there
is one. -/
def Interval.gridPoint? (i : Interval) (tie : Tie) (k : Int) : Option Nat :=
  let below := floorScaled i.mid i.exponent k
  match i.holds below k, i.holds (below + 1) k with
  | true, true =>
    match compareScaled (2 * i.mid) i.exponent (2 * below + 1) k with
    | .lt => some below
    | .gt => some (below + 1)
    | .eq =>
      match tie with
      | .up => some (below + 1)
      | .even => some (below + below % 2)
  | true, false => some below
  | false, true => some (below + 1)
  | false, false => none

/-- The decimal without trailing zeros, of which it has at most `steps`. -/
def Decimal.stripZeros : (steps : Nat) → Decimal → Decimal
  | 0, d => d
  | steps + 1, d =>
    if d.significand % 10 = 0 && d.significand ≠ 0 then
      stripZeros steps ⟨d.significand / 10, d.exponent + 1⟩
    else d

/-- Tries the grids from the coarsest on, `steps` of them. -/
def searchGrids (i : Interval) (tie : Tie) : (steps : Nat) → (k : Int) → Decimal
  | 0, k => ⟨floorScaled i.mid i.exponent k, k⟩
  | steps + 1, k =>
    match i.gridPoint? tie k with
    | some n => Decimal.stripZeros 20 ⟨n, k⟩
    | none => searchGrids i tie steps (k - 1)

/-- The shortest decimal of a double `mantissa * 2 ^ exponent`; zero is its own. -/
def ofDouble (tie : Tie) (mantissa : Nat) (exponent : Int) : Decimal :=
  if mantissa = 0 then ⟨0, 0⟩
  else
    let i := Interval.of mantissa exponent
    searchGrids i tie 17 (i.magnitude - 1)

example : ofDouble .up 1 (-1074) = ⟨5, -324⟩ := by decide +kernel
example : ofDouble .even (3 * twoTo 51) (-53) = ⟨75, -2⟩ := by decide +kernel
example : ofDouble .up (twoTo 52) 1 = ⟨9007199254740992, 0⟩ := by decide +kernel
example : ofDouble .up (twoTo 53 - 1) 971 = ⟨17976931348623157, 292⟩ := by decide +kernel

end Graft.Shortest
