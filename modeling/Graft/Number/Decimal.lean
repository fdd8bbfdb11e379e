import Graft.Number.Binary64

/-!
Decimal numbers of at most 96 bits, and arithmetic of doubles that goes through them.

A decimal is a mantissa below `2 ^ 96` with up to 28 places. Where a whole number meets a
fraction, both operands become decimals, the operation is exact or rounded to the nearest
decimal (a tie to the even one), and the result becomes a double again: so `1 + 0.1` is
`1.1`, with no trace of the binary fraction. Whatever does not fit is `none`, and the
caller falls back to the arithmetic of doubles.

A double is taken for the decimal it was most likely written as: its exact value is
approximated by a decimal with as many digits as fit, and then cut back to a mantissa
below `2 ^ 52`, about sixteen digits. The steps of that approximation are part of the
result, so they are given here as they are taken, one digit or one factor at a time.
-/

set_option autoImplicit false

namespace Graft

/-- `mantissa / 10 ^ scale`, negated if `negative`. -/
structure Decimal where
  negative : Bool
  mantissa : Nat
  scale : Nat
  deriving Repr, DecidableEq

namespace Decimal

/-- Mantissas stay below this. -/
def mantissaBound : Nat := twoTo 96

/-- The greatest number of places. -/
def maxScale : Nat := 28

/-- A mantissa below this has no more digits than a double is good for. -/
def precisionBound : Nat := twoTo 52

/-- Zero without places. -/
def zero : Decimal := ⟨false, 0, 0⟩

/-- A decimal with its sign dropped where it is zero. -/
def signed (negative : Bool) (mantissa scale : Nat) : Decimal :=
  ⟨negative && mantissa ≠ 0, mantissa, scale⟩

/-! ## From doubles -/

/-- Divides by ten and rounds a half up. -/
def tenth (n : Nat) : Nat :=
  n / 10 + if 5 ≤ n % 10 then 1 else 0

/-- Takes `steps` halvings into the mantissa of a value `n * 10 ^ e`. An even mantissa is
halved in exchange for a power of ten; an odd one is multiplied by five, unless it would
grow too large, and is then halved all the same. -/
def absorbHalves : (steps : Nat) → Nat × Int → Nat × Int
  | 0, s => s
  | steps + 1, (n, e) =>
    absorbHalves steps <|
      if n % 2 = 0 then (n / 2, e + 1)
      else if n * 5 < mantissaBound then (n * 5, e)
      else (n / 2, e + 1)

/-- Takes `steps` doublings into the mantissa: doubled while there is room, divided by five
in exchange for a power of ten after that. -/
def absorbDoubles : (steps : Nat) → Nat × Int → Nat × Int
  | 0, s => s
  | steps + 1, (n, e) =>
    absorbDoubles steps (if n < mantissaBound / 2 then (n * 2, e - 1) else (n / 5, e))

/-- Multiplies by ten until the exponent is zero, if there is room. -/
def clearExponent? : (steps : Nat) → Nat → Option Nat
  | 0, n => some n
  | steps + 1, n => if n * 10 < mantissaBound then clearExponent? steps (n * 10) else none

/-- Divides by ten until at most 28 places are left; a mantissa that vanishes ends this. -/
def limitPlaces : (steps : Nat) → Nat × Nat → Nat × Nat
  | 0, s => s
  | steps + 1, (n, places) =>
    if places ≤ maxScale then (n, places)
    else if n < 10 then (0, 0)
    else limitPlaces steps (tenth n, places - 1)

/-- Drops places until the mantissa has no more digits than a double is good for. -/
def limitDigits : (places : Nat) → Nat → Nat × Nat
  | 0, n => (n, 0)
  | places + 1, n =>
    if n < precisionBound then (n, places + 1) else limitDigits places (tenth n)

/-- Drops places that hold a zero. -/
def stripZeros : (places : Nat) → Nat → Nat × Nat
  | 0, n => (n, 0)
  | places + 1, n => if n % 10 = 0 then stripZeros places (n / 10) else (n, places + 1)

/-- The decimal that a double is taken for. From `2 ^ 96` on there is none. -/
def ofFloat? (x : Float) : Option Decimal := do
  let p ← Binary64.parts? x
  if p.mantissa = 0 then return ⟨p.negative, 0, 0⟩
  guard (p.exponent < 0 || p.mantissa * twoTo p.exponent.toNat < mantissaBound)
  let (n, e) :=
    if p.exponent < 0 then absorbHalves (-p.exponent).toNat (p.mantissa, p.exponent)
    else absorbDoubles p.exponent.toNat (p.mantissa, p.exponent)
  let n ← clearExponent? e.toNat n
  let (n, places) := limitPlaces (-e).toNat (n, (-e).toNat)
  let (n, places) := limitDigits places n
  let (n, places) := stripZeros places n
  return ⟨p.negative, n, places⟩

/-! ## To doubles -/

/-- The double that a decimal stands for. Whole and fractional part are converted apart,
and the sum is rounded once more to the decimal's own places. -/
def toFloat (d : Decimal) : Float :=
  if d.scale = 0 then
    Binary64.ofInt (if d.negative then -(d.mantissa : Int) else d.mantissa)
  else
    let unit := tenTo d.scale
    let whole := Binary64.ofInt (d.mantissa / unit : Nat)
    let step := Binary64.ofInt (unit : Nat)
    let fraction := Binary64.ofInt (d.mantissa % unit : Nat) / step
    let magnitude :=
      if d.mantissa % unit = 0 then whole else ((whole + fraction) * step).round / step
    if d.negative then -magnitude else magnitude

/-! ## Arithmetic -/

/-- Drops `k` or more of the places of `n` until the mantissa fits; `steps` bounds their
number. A result that rounds up to the bound loses one more place. -/
def fitFrom? (n scale : Nat) : (steps k : Nat) → Option (Nat × Nat)
  | 0, _ => none
  | steps + 1, k =>
    if scale < k then none
    else if n / tenTo k < mantissaBound then
      let m := Binary64.divNearest n (tenTo k)
      if m < mantissaBound then some (m, scale - k)
      else if k < scale then some (Binary64.divNearest m 10, scale - k - 1)
      else none
    else fitFrom? n scale steps (k + 1)

/-- The decimal nearest to `n / 10 ^ scale` that has as many places as fit. -/
def fit? (negative : Bool) (n scale : Nat) : Option Decimal :=
  (fitFrom? n scale (scale + 1) (scale - maxScale)).map fun (m, s) => signed negative m s

/-- The mantissa at a larger scale, with its sign. -/
def mantissaAt (d : Decimal) (scale : Nat) : Int :=
  let n : Int := (d.mantissa * tenTo (scale - d.scale) : Nat)
  if d.negative then -n else n

/-- The opposite number; zero is its own. -/
def neg (d : Decimal) : Decimal :=
  signed (!d.negative) d.mantissa d.scale

/-- The sum. A zero operand leaves the other one as it is. -/
def add? (a b : Decimal) : Option Decimal :=
  if a.mantissa = 0 then some b
  else if b.mantissa = 0 then some a
  else
    let scale := max a.scale b.scale
    let sum := a.mantissaAt scale + b.mantissaAt scale
    fit? (sum < 0) sum.natAbs scale

/-- The difference. -/
def sub? (a b : Decimal) : Option Decimal :=
  add? a b.neg

/-- The product. -/
def mul? (a b : Decimal) : Option Decimal :=
  if a.mantissa = 0 || b.mantissa = 0 then some zero
  else fit? (a.negative != b.negative) (a.mantissa * b.mantissa) (a.scale + b.scale)

/-- The most places, nine at most, by which a quotient with `scale` places can grow. -/
def room (q : Nat) (scale : Int) : Nat :=
  (List.range' 1 9).foldl (fun p k =>
    if scale + (k : Nat) ≤ maxScale && q * tenTo k < mantissaBound then k else p) 0

/-- A mantissa that no longer fits, with one place less and a half rounded to even; `rest`
says that there are digits behind it. -/
def dropPlace? (q : Nat) (scale : Int) (rest : Bool) : Option (Nat × Nat) :=
  if scale < 1 then none
  else
    let d := q % 10
    let up := 5 < d || (d = 5 && (rest || q / 10 % 2 = 1))
    some (q / 10 + if up then 1 else 0, (scale - 1).toNat)

/-- Develops the quotient `q` with the remainder `r` of a division by `b`, up to nine places
at a time, until nothing remains or no place is left, and then rounds a half to even. -/
def develop? (b : Nat) : (steps : Nat) → (q r : Nat) → (scale : Int) → Option (Nat × Nat)
  | 0, _, _, _ => none
  | steps + 1, q, r, scale =>
    if r = 0 then
      if 0 ≤ scale then some (q, scale.toNat)
      else
        let k := min 9 (-scale).toNat
        if q * tenTo k < mantissaBound then develop? b steps (q * tenTo k) 0 (scale + k) else none
    else
      let k := room q scale
      if k < 9 && scale + k < 0 then none
      else if k = 0 then
        let q := if b < 2 * r || (2 * r = b && q % 2 = 1) then q + 1 else q
        if q < mantissaBound then some (q, scale.toNat) else dropPlace? q scale true
      else
        let q := q * tenTo k + r * tenTo k / b
        let r := r * tenTo k % b
        if q < mantissaBound then develop? b steps q r (scale + k)
        else dropPlace? q (scale + k) (r ≠ 0)

/-- Drops `count` places if they all hold zeros. -/
def dropZeros (count : Nat) (n scale : Nat) : Nat × Nat :=
  if count ≤ scale && n % tenTo count = 0 then (n / tenTo count, scale - count) else (n, scale)

/-- Drops zeros at the end of a quotient: eight at a time while the lowest 32 bits of the
mantissa are zero, then four, two and one. Some may be left. -/
def trimZeros : (steps : Nat) → Nat → Nat → Nat × Nat
  | steps + 1, n, scale =>
    if n % twoTo 32 = 0 && 8 ≤ scale && n % tenTo 8 = 0 then
      trimZeros steps (n / tenTo 8) (scale - 8)
    else finish n scale
  | 0, n, scale => finish n scale
where
  /-- Drops up to seven zeros. -/
  finish (n scale : Nat) : Nat × Nat :=
    let (n, scale) := dropZeros 4 n scale
    let (n, scale) := dropZeros 2 n scale
    dropZeros 1 n scale

/-- The quotient. Mantissas that divide evenly keep the difference of the scales; any other
quotient is developed as far as it fits and loses zeros at its end. -/
def div? (a b : Decimal) : Option Decimal :=
  if b.mantissa = 0 then none
  else if a.mantissa = 0 then some zero
  else do
    let r := a.mantissa % b.mantissa
    let (n, scale) ← develop? b.mantissa 64 (a.mantissa / b.mantissa) r
      ((a.scale : Int) - b.scale)
    let (n, scale) := if r = 0 then (n, scale) else trimZeros 4 n scale
    return signed (a.negative != b.negative) n scale

/-- The remainder of division toward zero, with the sign of the dividend. -/
def rem? (a b : Decimal) : Option Decimal :=
  if b.mantissa = 0 then none
  else if a.mantissa = 0 then some zero
  else
    let scale := max a.scale b.scale
    let n := a.mantissa * tenTo (scale - a.scale)
    let d := b.mantissa * tenTo (scale - b.scale)
    if n = d then some zero
    else if n < d then some a
    else some (signed a.negative (n % d) scale)

/-- The decimal with at most `places` places, a half rounded away from zero. -/
def roundTo (d : Decimal) (places : Nat) : Decimal :=
  if d.scale ≤ places then d
  else
    let unit := tenTo (d.scale - places)
    let n := d.mantissa / unit + if unit ≤ 2 * (d.mantissa % unit) then 1 else 0
    signed d.negative n places

example : (ofFloat? 1.1).map (fun d => (d.mantissa, d.scale)) = some (11, 1) := by decide +kernel
example : ofFloat? 1e29 = none := by decide +kernel
example : add? ⟨false, 1, 0⟩ ⟨false, 1, 1⟩ = some ⟨false, 11, 1⟩ := by decide +kernel
example : (div? ⟨false, 1, 0⟩ ⟨false, 8, 0⟩) = some ⟨false, 125, 3⟩ := by decide +kernel
example : roundTo ⟨true, 25, 1⟩ 0 = ⟨true, 3, 0⟩ := by decide +kernel

end Decimal

end Graft
