import Graft.Number.Numeral
import Graft.Toml.Basic

/-!
Dates and times in TOML documents.

A moment is a date, a time of day, or both with a letter or a blank in between; then it can
say how far its clock is from the common one. A time may leave out its seconds, and a
second may be the leap second.
-/

set_option autoImplicit false

namespace Graft.Toml

/-- A number of exactly so many digits, and what follows it. -/
def fixed? (width : Nat) (cs : List Char) : Option (Nat × List Char) :=
  let digits := cs.takeWhile Char.isDigit
  if digits.length = width then
    (Numeral.digits? 10 digits).map fun n => (n, cs.drop width)
  else none

/-- The text behind a mark. -/
def behind? (mark : Char) : List Char → Option (List Char)
  | [] => none
  | c :: rest => if c = mark then some rest else none

/-- Whether a year has a day more. -/
def isLeapYear (year : Nat) : Bool :=
  year % 4 = 0 && (year % 100 ≠ 0 || year % 400 = 0)

/-- The number of days of a month. -/
def daysOf (year month : Nat) : Nat :=
  if month = 2 then (if isLeapYear year then 29 else 28)
  else if [4, 6, 9, 11].contains month then 30
  else 31

/-- What follows a date. -/
def date? (cs : List Char) : Option (List Char) := do
  let (year, rest) ← fixed? 4 cs
  let (month, rest) ← fixed? 2 (← behind? '-' rest)
  let (day, rest) ← fixed? 2 (← behind? '-' rest)
  if 1 ≤ month && month ≤ 12 && 1 ≤ day && day ≤ daysOf year month then some rest else none

/-- What follows a fraction of a second. -/
def fraction? (cs : List Char) : Option (List Char) :=
  match cs with
  | '.' :: rest =>
    if (rest.takeWhile Char.isDigit).isEmpty then none else some (rest.dropWhile Char.isDigit)
  | cs => some cs

/-- What follows an hour and a minute. -/
def clock? (cs : List Char) : Option (List Char) := do
  let (hour, rest) ← fixed? 2 cs
  let (minute, rest) ← fixed? 2 (← behind? ':' rest)
  if hour < 24 && minute < 60 then some rest else none

/-- What follows a time of day. -/
def time? (cs : List Char) : Option (List Char) := do
  match ← clock? cs with
  | ':' :: rest => do
    let (second, rest) ← fixed? 2 rest
    if second ≤ 60 then fraction? rest else none
  | rest => some rest

/-- What follows the difference to the common clock, if there is one. -/
def offset? : List Char → Option (List Char)
  | [] => some []
  | c :: rest =>
    if c = 'Z' || c = 'z' then some rest
    else if c = '+' || c = '-' then clock? rest
    else none

/-- Whether a text is a date, a time or both. -/
def isMoment (cs : List Char) : Bool :=
  match date? cs with
  | none => time? cs == some []
  | some [] => true
  | some (c :: rest) =>
    (c = 'T' || c = 't' || c = ' ') && (time? rest).bind offset? == some []

example : isMoment "1979-05-27 07:32".toList = true := by decide +kernel
example : isMoment "1979-05-27T07:32:00.5-07:00".toList = true := by decide +kernel
example : isMoment "1900-02-29".toList = false := by decide +kernel
example : isMoment "23:59:60".toList = true := by decide +kernel
example : isMoment "07:32Z".toList = false := by decide +kernel

end Graft.Toml
