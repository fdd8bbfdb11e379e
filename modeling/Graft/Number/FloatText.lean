import Graft.Number.Numeral
import Graft.Number.Shortest

/-!
How doubles are written and read.

Written forms use the shortest digits that read back; one may write whole numbers with all
their digits instead. A `FloatFormat` says which, where positional notation ends and whether
a whole number keeps a fraction. The formats in use are those of literals, of messages and
of JSON.

The one reader here is that of number tokens: an optional sign, then digits with an
optional point and exponent, or one of the names of the values that are no numbers of
digits. It rounds correctly whatever the number of digits.
-/

set_option autoImplicit false

namespace Graft

/-- The decisions of a written form of doubles. -/
structure FloatFormat where
  /-- How the choice between two equally near decimals goes. -/
  tie : Shortest.Tie
  /-- The least and the greatest decimal exponent of the first digit that are written
  positionally; without bounds, all are. -/
  positional : Option (Int × Int)
  /-- A positional whole number ends in `.0`. -/
  keepsFraction : Bool
  /-- A positional whole number is written exactly; otherwise its shortest digits are filled
  up with zeros. -/
  exactWholes : Bool

namespace FloatFormat

/-- Literals are positional throughout, always show a fraction and give whole numbers
exactly. -/
def literal : FloatFormat := ⟨.up, none, true, true⟩

/-- Messages show a whole number without a fraction. -/
def message : FloatFormat := ⟨.up, none, false, false⟩

/-- JSON is positional from 0.00001 up to, but not including, 10^16. -/
def json : FloatFormat := ⟨.even, some (-5, 15), true, false⟩

/-- Digits with a point `point` places behind the first of them. -/
def positionalText (keepsFraction : Bool) (digits : List Char) (point : Int) : List Char :=
  if point ≤ 0 then ['0', '.'] ++ List.replicate (-point).toNat '0' ++ digits
  else if (digits.length : Int) ≤ point then
    digits ++ List.replicate (point.toNat - digits.length) '0' ++
      (if keepsFraction then ['.', '0'] else [])
  else digits.take point.toNat ++ ['.'] ++ digits.drop point.toNat

/-- Digits with an exponent, the point behind the first of them. -/
def scientificText (digits : List Char) (exponent : Int) : List Char :=
  digits.take 1 ++ (if digits.length ≤ 1 then [] else '.' :: digits.drop 1) ++
    ['e', if exponent < 0 then '-' else '+'] ++ Numeral.padded 10 1 exponent.natAbs

/-- The decimal that is written for a positive or zero double. -/
def decimal (f : FloatFormat) (mantissa : Nat) (exponent : Int) : Shortest.Decimal :=
  match f.exactWholes, Binary64.whole? mantissa exponent with
  | true, some n => ⟨n, 0⟩
  | _, _ => Shortest.ofDouble f.tie mantissa exponent

/-- The written form of a positive or zero double. -/
def magnitudeText (f : FloatFormat) (mantissa : Nat) (exponent : Int) : List Char :=
  let d := f.decimal mantissa exponent
  let digits := Numeral.padded 10 1 d.significand
  let point := d.exponent + digits.length
  if d.significand = 0 then if f.keepsFraction then ['0', '.', '0'] else ['0']
  else match f.positional with
    | none => positionalText f.keepsFraction digits point
    | some (least, greatest) =>
      if least ≤ point - 1 && point - 1 ≤ greatest then
        positionalText f.keepsFraction digits point
      else scientificText digits (point - 1)

/-- The written form of a double. -/
def text (f : FloatFormat) (x : Float) : String :=
  match Binary64.parts? x with
  | some p =>
    String.ofList ((if p.negative then ['-'] else []) ++ f.magnitudeText p.mantissa p.exponent)
  | none => if x.isNaN then "NaN" else if x < 0 then "-inf" else "inf"

example : literal.text 100.0 = "100.0" := by decide +kernel
example : literal.text 1e23 = "99999999999999991611392.0" := by decide +kernel
example : message.text 1e23 = "100000000000000000000000" := by decide +kernel
example : literal.text 0.0000001 = "0.0000001" := by decide +kernel
example : message.text 2.0 = "2" := by decide +kernel
example : json.text 1e16 = "1e+16" := by decide +kernel
example : json.text 0.00001 = "0.00001" := by decide +kernel
example : json.text 1.5e-10 = "1.5e-10" := by decide +kernel
example : json.text (-0.0) = "-0.0" := by decide +kernel

end FloatFormat

namespace Binary64

/-- An exponent: an optional sign and digits, or nothing at all. -/
def exponent? (cs : List Char) : Option Int :=
  match cs with
  | [] => some 0
  | c :: rest =>
    if c = 'e' || c = 'E' then
      match rest with
      | '-' :: ds => (Numeral.digits? 10 ds).map fun n => -(n : Int)
      | '+' :: ds => (Numeral.digits? 10 ds).map Int.ofNat
      | ds => (Numeral.digits? 10 ds).map Int.ofNat
    else none

/-- A number of digits without its sign: digits, a point and digits, of which one side of
the point may be empty, and an exponent. -/
def magnitude? (negative : Bool) (cs : List Char) : Option Float :=
  let whole := cs.takeWhile Char.isDigit
  let rest := cs.dropWhile Char.isDigit
  let (fraction, tail) := match rest with
    | '.' :: after => (after.takeWhile Char.isDigit, after.dropWhile Char.isDigit)
    | _ => ([], rest)
  if whole.isEmpty && fraction.isEmpty then none
  else do
    let significand ← Numeral.digits? 10 (whole ++ fraction)
    let exponent ← exponent? tail
    return ofDecimal negative significand (exponent - fraction.length)

/-- The value of a number token. The names of infinity and not-a-number count in either
case. -/
def read? (cs : List Char) : Option Float :=
  let (negative, body) := match cs with
    | '-' :: rest => (true, rest)
    | '+' :: rest => (false, rest)
    | _ => (false, cs)
  let name := String.ofList (body.map Char.toLower)
  if name = "inf" || name = "infinity" then some (infinity negative)
  else if name = "nan" then some notANumber
  else magnitude? negative body

end Binary64

end Graft
