/-!
Whole numbers as texts.

Reading takes a sign and digits of a radix and refuses everything else: no blanks, no
separators, no empty digit string. Bounds are checked on the exact number, so a text is
refused for being too large and never wraps. Writing gives digits in lower case, padded
with zeros to a least width.
-/

set_option autoImplicit false

namespace Graft.Numeral

/-- The value of a digit in a radix up to 36; letters count in either case. -/
def digit? (radix : Nat) (c : Char) : Option Nat :=
  let value :=
    if '0' ≤ c && c ≤ '9' then c.toNat - '0'.toNat
    else if 'a' ≤ c && c ≤ 'z' then c.toNat - 'a'.toNat + 10
    else if 'A' ≤ c && c ≤ 'Z' then c.toNat - 'A'.toNat + 10
    else radix
  if value < radix then some value else none

/-- The number whose digits follow those already read into `acc`. -/
def foldDigits? (radix : Nat) : (acc : Nat) → List Char → Option Nat
  | acc, [] => some acc
  | acc, c :: rest => (digit? radix c).bind fun d => foldDigits? radix (acc * radix + d) rest

/-- A non-empty string of digits. -/
def digits? (radix : Nat) (cs : List Char) : Option Nat :=
  if cs.isEmpty then none else foldDigits? radix 0 cs

/-- A number below `bound`, with an optional plus sign. -/
def unsigned? (radix bound : Nat) (cs : List Char) : Option Nat :=
  let body := match cs with
    | '+' :: rest => rest
    | _ => cs
  (digits? radix body).filter (· < bound)

/-- The greatest 64-bit unsigned number is one less than this. -/
def wordBound : Nat := 0x10000000000000000

/-- The greatest 32-bit unsigned number is one less than this. -/
def shortWordBound : Nat := 0x100000000

/-- The greatest 64-bit signed number is one less than this, and the least one is its
opposite. -/
def signedBound : Nat := 0x8000000000000000

/-- Whether a number is in the range of 64-bit signed numbers. -/
def isSigned (n : Int) : Bool :=
  -(signedBound : Int) ≤ n && n < signedBound

/-- A decimal 64-bit unsigned number. -/
def word? (cs : List Char) : Option UInt64 :=
  (unsigned? 10 wordBound cs).map UInt64.ofNat

/-- A decimal number with an optional sign, in the range of 64-bit signed numbers. -/
def int64? (cs : List Char) : Option Int64 :=
  match cs with
  | '-' :: rest =>
    ((digits? 10 rest).filter (· ≤ signedBound)).map fun n => Int64.ofInt (-(n : Int))
  | _ => (unsigned? 10 signedBound cs).map fun n => Int64.ofInt (n : Int)

/-- The digits of `n` in `radix`, the most significant first; none for zero. `steps`
bounds their number. -/
def digitsWithin (radix : Nat) : (steps n : Nat) → List Char → List Char
  | 0, _, acc => acc
  | steps + 1, n, acc =>
    if n = 0 then acc else digitsWithin radix steps (n / radix) (Nat.digitChar (n % radix) :: acc)

/-- The digits of `n`, at least `width` of them. -/
def padded (radix width n : Nat) : List Char :=
  let ds := digitsWithin radix (n.log2 + 1) n []
  List.replicate (width - ds.length) '0' ++ ds

/-- Lower-case hexadecimal digits, at least `width` of them. -/
def hex (width n : Nat) : String :=
  String.ofList (padded 16 width n)

/-- Decimal digits. -/
def decimal (n : Nat) : String :=
  String.ofList (padded 10 1 n)

/-- Decimal digits with a minus sign where needed. -/
def signedDecimal (n : Int) : String :=
  if n < 0 then "-" ++ decimal n.natAbs else decimal n.natAbs

example : int64? "-9223372036854775808".toList = some Int64.minValue := by decide +kernel
example : int64? "9223372036854775808".toList = none := by decide +kernel
example : unsigned? 16 shortWordBound "+1f600".toList = some 0x1f600 := by decide +kernel
example : word? "".toList = none := by decide +kernel
example : hex 4 0x1f = "001f" := by decide +kernel
example : signedDecimal (-120) = "-120" := by decide +kernel

end Graft.Numeral
