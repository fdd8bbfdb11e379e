import Graft.Number.FloatText
import Graft.Toml.Moment

/-!
TOML values without quotes or brackets: truth values, numbers, dates and times.

Such a value is spelled in exactly one way, apart from underscores between digits, leading
signs and the radix of whole numbers. Numbers have to be in range.
-/

set_option autoImplicit false

namespace Graft.Toml

/-! ## Numbers -/

/-- The digits of a number, in which an underscore may stand between two digits. -/
def joined? : List Char → Option (List Char)
  | [] => some []
  | ['_'] => none
  | '_' :: _ => none
  | c :: '_' :: d :: rest =>
    if c.isAlphanum && d.isAlphanum then (joined? (d :: rest)).map (c :: ·) else none
  | c :: rest => (joined? rest).map (c :: ·)

/-- A number in a radix. -/
def radixNumber? (radix : Nat) (cs : List Char) : Option Nat :=
  (joined? cs).bind (Numeral.digits? radix)

/-- A decimal number. A zero leads no other digits. -/
def decimalNumber? (cs : List Char) : Option Nat :=
  if cs.head? = some '0' && cs.length ≠ 1 then none else radixNumber? 10 cs

/-- The text behind a sign, and whether the sign is a minus. -/
def unsign : List Char → Bool × List Char
  | '-' :: rest => (true, rest)
  | '+' :: rest => (false, rest)
  | cs => (false, cs)

/-- A whole number in the range of signed 64-bit words. -/
def whole? (cs : List Char) : Option Int :=
  let n : Option Int := match cs with
    | '0' :: 'x' :: digits => (radixNumber? 16 digits).map Int.ofNat
    | '0' :: 'o' :: digits => (radixNumber? 8 digits).map Int.ofNat
    | '0' :: 'b' :: digits => (radixNumber? 2 digits).map Int.ofNat
    | cs =>
      let (negative, digits) := unsign cs
      (decimalNumber? digits).map fun n => if negative then -(n : Int) else n
  n.filter Numeral.isSigned

/-- Whether a text is a fraction behind its point, which has digits. -/
def isFraction (cs : List Char) : Bool :=
  (radixNumber? 10 cs).isSome

/-- Whether a text is an exponent behind its letter. -/
def isExponent (cs : List Char) : Bool :=
  (radixNumber? 10 (unsign cs).2).isSome

/-- Whether a character is the letter of an exponent. -/
def isExponentMark (c : Char) : Bool :=
  c = 'e' || c = 'E'

/-- Whether a text is a number of decimal digits with a fraction, an exponent or both,
without its sign. -/
def isPointed (cs : List Char) : Bool :=
  let mantissa := cs.takeWhile (!isExponentMark ·)
  let exponent := cs.dropWhile (!isExponentMark ·)
  let integral := mantissa.takeWhile (· != '.')
  let fraction := mantissa.dropWhile (· != '.')
  (decimalNumber? integral).isSome &&
    (fraction.isEmpty || isFraction fraction.tail) &&
    (exponent.isEmpty || isExponent exponent.tail) &&
    !(fraction.isEmpty && exponent.isEmpty)

/-- Whether a text is a number that is not whole. One that is not finite has a name. -/
def isFloat (cs : List Char) : Bool :=
  let (_, digits) := unsign cs
  let name := String.ofList digits
  name = "inf" || name = "nan" ||
    (isPointed digits &&
      (Binary64.read? (digits.filter (· != '_'))).any fun x => x.isFinite)

/-! ## All values -/

/-- Whether a text is a truth value. -/
def isTruth (cs : List Char) : Bool :=
  let name := String.ofList cs
  name = "true" || name = "false"

/-- The value of a text. -/
def ofWord? (cs : List Char) : Option Toml :=
  match whole? cs with
  | some n => some (whole n)
  | none => if isTruth cs || isFloat cs || isMoment cs then some other else none

example : whole? "1_000".toList = some 1000 := by decide +kernel
example : whole? "007".toList = none := by decide +kernel
example : whole? "-0x1".toList = none := by decide +kernel
example : whole? "9223372036854775808".toList = none := by decide +kernel
example : isFloat "-0.5e+07".toList = true := by decide +kernel
example : isFloat "1e400".toList = false := by decide +kernel
example : isFloat "1_.5".toList = false := by decide +kernel

end Graft.Toml
