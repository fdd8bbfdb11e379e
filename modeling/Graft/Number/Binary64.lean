import Graft.Number.Power

/-!
Double precision numbers as exact fractions, and back.

A finite double is a sign, a mantissa and a power of two (`Parts`); `nearest` goes the
other way and rounds any fraction to the nearest double, a tie to the even one. What other
modules need of doubles beyond the four operations is built on the two: decimal texts,
the remainder, conversions.
-/

set_option autoImplicit false

namespace Graft.Binary64

/-- A finite double: `mantissa * 2 ^ exponent`, negated if `negative`. -/
structure Parts where
  negative : Bool
  mantissa : Nat
  exponent : Int
  deriving Repr, DecidableEq

/-- The exponent of the least positive double. -/
def leastExponent : Int := -1074

/-- The mantissas of doubles that are not subnormal begin here. -/
def hiddenBit : Nat := twoTo 52

/-- The parts of a double, unless it is infinite or not a number. -/
def parts? (x : Float) : Option Parts :=
  let bits := x.toBits.toNat
  let negative := bits / twoTo 63 == 1
  let field := bits / twoTo 52 % twoTo 11
  let fraction := bits % twoTo 52
  if field = 2047 then none
  else if field = 0 then some ⟨negative, fraction, leastExponent⟩
  else some ⟨negative, hiddenBit + fraction, leastExponent + (field - 1 : Nat)⟩

/-- The whole number that `mantissa * 2 ^ exponent` is, if it is one. -/
def whole? (mantissa : Nat) (exponent : Int) : Option Nat :=
  if 0 ≤ exponent then some (mantissa * twoTo exponent.toNat)
  else if mantissa % twoTo (-exponent).toNat = 0 then some (mantissa / twoTo (-exponent).toNat)
  else none

/-- Both infinities. -/
def infinity (negative : Bool) : Float :=
  if negative then Float.ofBits 0xfff0000000000000 else Float.ofBits 0x7ff0000000000000

/-- The one not-a-number that arithmetic here produces. -/
def notANumber : Float := Float.ofBits 0x7ff8000000000000

/-- `num / den` rounded to a whole number, a tie to the even one. -/
def divNearest (num den : Nat) : Nat :=
  let q := num / den
  let r := 2 * (num % den)
  if r < den then q else if den < r then q + 1 else q + q % 2

/-- `num / den`, divided by `2 ^ e` and rounded to a whole number. -/
def scaledNearest (num den : Nat) (e : Int) : Nat :=
  if 0 ≤ e then divNearest num (den * twoTo e.toNat) else divNearest (num * twoTo (-e).toNat) den

/-- The exponent of the double just at or below `num / den`: the mantissa it leaves has 53
bits, or the exponent is the least one. -/
def exponentOf (num den : Nat) : Int :=
  let guess : Int := (num.log2 : Int) - den.log2 - 52
  let tooLarge :=
    if 0 ≤ guess then num < den * twoTo guess.toNat * hiddenBit
    else num * twoTo (-guess).toNat < den * hiddenBit
  max leastExponent (if tooLarge then guess - 1 else guess)

/-- The double nearest to `num / den`. Encoding the mantissa above its field carries a
mantissa that rounds up to 54 bits into the exponent. -/
def nearest (negative : Bool) (num den : Nat) : Float :=
  let e := if num = 0 then leastExponent else exponentOf num den
  let bits := scaledNearest num den e + (e - leastExponent).toNat * twoTo 52
  let bits := if bits < 2047 * twoTo 52 then bits else 2047 * twoTo 52
  Float.ofBits (UInt64.ofNat (bits + if negative then twoTo 63 else 0))

/-- The double nearest to `mantissa * 2 ^ exponent`. -/
def ofParts (p : Parts) : Float :=
  if 0 ≤ p.exponent then nearest p.negative (p.mantissa * twoTo p.exponent.toNat) 1
  else nearest p.negative p.mantissa (twoTo (-p.exponent).toNat)

/-- The number of decimal digits of `n`, at most one too many. -/
def digitCountBound (n : Nat) : Nat :=
  n.log2 * 30103 / 100000 + 2

/-- The double nearest to `significand * 10 ^ exponent`. Magnitudes far beyond both ends
of the range are answered without computing the power. -/
def ofDecimal (negative : Bool) (significand : Nat) (exponent : Int) : Float :=
  let point := exponent + digitCountBound significand
  if significand = 0 || point < -330 then nearest negative 0 1
  else if 400 < exponent || 800 < point then infinity negative
  else if 0 ≤ exponent then nearest negative (significand * tenTo exponent.toNat) 1
  else nearest negative significand (tenTo (-exponent).toNat)

/-- The double nearest to a whole number. -/
def ofInt (n : Int) : Float :=
  nearest (n < 0) n.natAbs 1

/-- The remainder of division toward zero. It is exact and takes the sign of the
dividend, also where it is zero. -/
def remainder (a b : Float) : Float :=
  match parts? a, parts? b with
  | some p, some q =>
    if q.mantissa = 0 then notANumber
    else
      let e := min p.exponent q.exponent
      let r := (p.mantissa * twoTo (p.exponent - e).toNat)
        % (q.mantissa * twoTo (q.exponent - e).toNat)
      ofParts ⟨p.negative, r, e⟩
  | some _, none => if b.isNaN then notANumber else a
  | none, _ => notANumber

example : parts? 0.75 = some ⟨false, 3 * twoTo 51, -53⟩ := by decide +kernel
example : whole? (3 * twoTo 51) (-52) = none := by decide +kernel
example : whole? (3 * twoTo 51) (-51) = some 3 := by decide +kernel
example : (ofDecimal false 1 (-1)).toBits = 0x3fb999999999999a := by decide +kernel
example : (ofDecimal true 5 (-324)).toBits = 0x8000000000000001 := by decide +kernel
example : (ofDecimal false 17976931348623159 292).toBits = 0x7ff0000000000000 := by decide +kernel
example : (ofDecimal false 22250738585072014 (-324)).toBits = 0x0010000000000000 := by
  decide +kernel
example : (remainder (-5.5) 2.0).toBits = (-1.5 : Float).toBits := by decide +kernel

end Graft.Binary64
