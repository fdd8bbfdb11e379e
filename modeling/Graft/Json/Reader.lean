import Graft.Json.Basic
import Graft.Number.Numeral
import Graft.Number.Binary64

/-!
Reading JSON texts.

The grammar is the strict one: no comments, no trailing commas, no blanks but the four of
the grammar. Numbers with a point or an exponent, and whole numbers beyond the 64-bit
words, become doubles: their first digits, as many as fit a word, are converted and then
multiplied or divided by a power of ten, each step rounded. That is exact for up to
fifteen digits and small exponents and within a few units of the last place otherwise.

Every step of the reader consumes a character, so the length of the text bounds their
number.
-/

set_option autoImplicit false

namespace Graft.Json

/-- What is left of a text after its beginning has been read. -/
abbrev Rest := List Char

/-- A blank of the grammar. -/
def isSpace (c : Char) : Bool :=
  c = ' ' || c = '\n' || c = '\t' || c = '\r'

/-- The text behind leading blanks. -/
def skipSpaces (cs : List Char) : Rest :=
  cs.dropWhile isSpace

/-! ## Numbers -/

/-- The significand of a number while its digits are read: digits that no longer fit a
64-bit word are dropped, and those before the point are counted. -/
structure Significand where
  word : Nat
  dropped : Nat
  full : Bool

/-- Takes digits before the point. -/
def Significand.takeWhole (s : Significand) : List Char → Significand
  | [] => s
  | c :: rest =>
    let d := c.toNat - '0'.toNat
    if s.full || Numeral.wordBound ≤ s.word * 10 + d then
      takeWhole { s with dropped := s.dropped + 1, full := true } rest
    else takeWhole { s with word := s.word * 10 + d } rest

/-- Takes digits behind the point, `taken` of which are in the word already. -/
def Significand.takeFraction (word taken : Nat) : List Char → Nat × Nat
  | [] => (word, taken)
  | c :: rest =>
    let d := c.toNat - '0'.toNat
    if Numeral.wordBound ≤ word * 10 + d then (word, taken)
    else takeFraction (word * 10 + d) (taken + 1) rest

/-- The double nearest to a power of ten up to 308. -/
def powerOfTen (n : Nat) : Float :=
  Binary64.ofInt (tenTo n)

/-- Divides by 10^308 until at most that power of ten is left to divide by; zero is
reached within three steps. -/
def divideOut : (steps : Nat) → Float → Nat → Float
  | 0, x, _ => x
  | steps + 1, x, n =>
    if n ≤ 308 then x / powerOfTen n
    else if x == 0 then x
    else divideOut steps (x / powerOfTen 308) (n - 308)

/-- The double of a significand and a power of ten, or `none` if it is too large. -/
def scaled? (word : Nat) (exponent : Int) : Option Float :=
  let x := Binary64.ofInt word
  if exponent < 0 then some (divideOut 6 x exponent.natAbs)
  else if exponent ≤ 308 then
    let y := x * powerOfTen exponent.toNat
    if y.isInf then none else some y
  else if word = 0 then some x
  else none

/-- A number and what follows it. -/
def number? (cs : List Char) : Option (Json × Rest) := do
  let (negative, body) := match cs with
    | '-' :: rest => (true, rest)
    | _ => (false, cs)
  let whole := body.takeWhile Char.isDigit
  let rest := body.dropWhile Char.isDigit
  guard (!whole.isEmpty && (whole.length = 1 || whole.head? ≠ some '0'))
  let s := Significand.takeWhole ⟨0, 0, false⟩ whole
  let (fraction, rest, hasPoint) := match rest with
    | '.' :: after => (after.takeWhile Char.isDigit, after.dropWhile Char.isDigit, true)
    | _ => ([], rest, false)
  guard (!hasPoint || !fraction.isEmpty)
  let (word, taken) := Significand.takeFraction s.word 0 fraction
  let (exponent, rest, hasExponent) ← match rest with
    | c :: after =>
      if c = 'e' || c = 'E' then
        let (down, after) := match after with
          | '-' :: r => (true, r)
          | '+' :: r => (false, r)
          | r => (false, r)
        (Numeral.digits? 10 (after.takeWhile Char.isDigit)).map fun n =>
          ((if down then -(n : Int) else n), after.dropWhile Char.isDigit, true)
      else some (0, rest, false)
    | [] => some (0, rest, false)
  let signed (x : Float) : Float := if negative then -x else x
  if hasPoint || hasExponent || s.full then
    match scaled? word (exponent + s.dropped - taken) with
    | some x => return (float (signed x), rest)
    | none => return (unreadable, rest)
  else if negative && (word = 0 || Numeral.signedBound < word) then
    return (float (-(Binary64.ofInt word)), rest)
  else return (int (if negative then -(word : Int) else word), rest)

/-! ## Strings -/

/-- The number written in four hexadecimal digits, and what follows. -/
def fourHex? : List Char → Option (Nat × Rest)
  | a :: b :: c :: d :: rest => do
    let a ← Numeral.digit? 16 a
    let b ← Numeral.digit? 16 b
    let c ← Numeral.digit? 16 c
    let d ← Numeral.digit? 16 d
    return (((a * 16 + b) * 16 + c) * 16 + d, rest)
  | _ => none

/-- The character of a one-letter escape. -/
def escaped? : Char → Option Char
  | '"' => some '"'
  | '\\' => some '\\'
  | '/' => some '/'
  | 'b' => some (Char.ofNat 8)
  | 'f' => some (Char.ofNat 12)
  | 'n' => some '\n'
  | 'r' => some '\r'
  | 't' => some '\t'
  | _ => none

/-- The rest of a string behind its opening quote: its characters, or `none` in their place
where half a surrogate pair is escaped, and what follows the closing quote. -/
def stringBody? : (steps : Nat) → List Char → Option (Option (List Char) × Rest)
  | 0, _ => none
  | _ + 1, [] => none
  | steps + 1, c :: rest =>
    let push (d : Option Char) (tail : Option (Option (List Char) × Rest)) :
        Option (Option (List Char) × Rest) :=
      tail.map fun (cs, r) => ((do return (← d) :: (← cs)), r)
    if c = '"' then some (some [], rest)
    else if c.toNat < 0x20 then none
    else if c ≠ '\\' then push (some c) (stringBody? steps rest)
    else match rest with
      | 'u' :: rest => do
        let (high, rest) ← fourHex? rest
        if 0xd800 ≤ high && high < 0xdc00 then
          match rest with
          | '\\' :: 'u' :: after =>
            let (low, after) ← fourHex? after
            if 0xdc00 ≤ low && low < 0xe000 then
              push (some (Char.ofNat (0x10000 + (high - 0xd800) * 0x400 + (low - 0xdc00))))
                (stringBody? steps after)
            else push none (stringBody? steps after)
          | _ => push none (stringBody? steps rest)
        else if 0xdc00 ≤ high && high < 0xe000 then push none (stringBody? steps rest)
        else push (some (Char.ofNat high)) (stringBody? steps rest)
      | e :: rest => (escaped? e).bind fun d => push (some d) (stringBody? steps rest)
      | [] => none

/-! ## Values -/

/-- The text behind a word of letters. -/
def keyword? (word : List Char) (cs : List Char) : Option Rest :=
  if word.isPrefixOf cs then some (cs.drop word.length) else none

mutual

/-- A value and what follows it. -/
def readValue? : (steps : Nat) → List Char → Option (Json × Rest)
  | 0, _ => none
  | steps + 1, cs =>
    match skipSpaces cs with
    | 'n' :: rest => (keyword? ['u', 'l', 'l'] rest).map fun r => (null, r)
    | 't' :: rest => (keyword? ['r', 'u', 'e'] rest).map fun r => (bool true, r)
    | 'f' :: rest => (keyword? ['a', 'l', 's', 'e'] rest).map fun r => (bool false, r)
    | '"' :: rest =>
      (stringBody? steps rest).map fun (s, r) =>
        (match s with
          | some s => string (String.ofList s)
          | none => unreadable, r)
    | '[' :: rest =>
      match skipSpaces rest with
      | ']' :: rest => some (array [], rest)
      | _ => (readItems? steps rest).map fun (js, r) => (array js, r)
    | '{' :: rest =>
      match skipSpaces rest with
      | '}' :: rest => some (object [], rest)
      | _ => (readMembers? steps rest).map fun (ms, r) =>
        (match ms with
          | some ms => object ms
          | none => unreadable, r)
    | rest => number? rest

/-- The items of an array up to its closing bracket, at least one. -/
def readItems? : (steps : Nat) → List Char → Option (List Json × Rest)
  | 0, _ => none
  | steps + 1, cs => do
    let (j, rest) ← readValue? steps cs
    match skipSpaces rest with
    | ',' :: rest =>
      let (js, rest) ← readItems? steps rest
      return (j :: js, rest)
    | ']' :: rest => return ([j], rest)
    | _ => none

/-- The members of an object up to its closing brace, at least one; `none` in their place
if a key is unreadable. -/
def readMembers? : (steps : Nat) → List Char → Option (Option (List (String × Json)) × Rest)
  | 0, _ => none
  | steps + 1, cs =>
    match skipSpaces cs with
    | '"' :: rest => do
      let (key, rest) ← stringBody? steps rest
      match skipSpaces rest with
      | ':' :: rest =>
        let (j, rest) ← readValue? steps rest
        let entry := key.map fun k => (String.ofList k, j)
        match skipSpaces rest with
        | ',' :: rest =>
          let (ms, rest) ← readMembers? steps rest
          return ((do return (← entry) :: (← ms)), rest)
        | '}' :: rest => return (entry.map ([·]), rest)
        | _ => none
      | _ => none
    | _ => none

end

/-- The value of a text that holds nothing else, parts that denote no value included. -/
def ofText? (text : String) : Option Json := do
  let cs := text.toList
  let (j, rest) ← readValue? (2 * cs.length + 2) cs
  guard (skipSpaces rest).isEmpty
  return j

/-- The value of a text that is readable throughout. -/
def parse? (text : String) : Option Json :=
  (ofText? text).filter (readable maxDepth)

end Graft.Json
