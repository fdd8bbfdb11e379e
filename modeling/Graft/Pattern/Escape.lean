import Graft.CharProperty.Name
import Graft.Number.Numeral
import Graft.Pattern.Flags
import Graft.Pattern.Look

/-!
What is written with a backslash in patterns: characters, classes of characters, and
conditions on words. Without the flag for Unicode, classes are classes of ASCII characters.
-/

set_option autoImplicit false

namespace Graft.PatternReader

/-- What is written with a backslash, or a character. -/
inductive Primitive where
  /-- A character; `byte` says that it is written as a byte. -/
  | literal (c : Char) (byte : Bool)
  | charClass (s : CharSet)
  | look (l : Look)

/-- The class of a digit, a blank or a part of a word. -/
def shorthand? (flags : Flags) (letter : Char) : Option CharSet :=
  let ascii := !flags.unicode
  let s? : Option CharSet := match letter.toLower with
    | 'd' => some (if ascii then .ofSpans [('0', '9')] else CharProperty.decimalDigit)
    | 's' => some (if ascii then .ofSpans [('\t', '\r'), (' ', ' ')] else CharProperty.whiteSpace)
    | 'w' => some (if ascii then .ofSpans [('0', '9'), ('A', 'Z'), ('_', '_'), ('a', 'z')]
        else CharProperty.word)
    | _ => none
  s?.bind (negate? flags letter.isUpper)

/-! ## Characters by their codes -/

/-- Characters up to one that ends them, each followed by spacing. -/
def takeUntil (flags : Flags) (stop : Char) : (fuel : Nat) → (taken : List Char) → List Char →
    Option (List Char × List Char)
  | 0, _, _ => none
  | _ + 1, _, [] => none
  | fuel + 1, taken, c :: rest =>
    if c = stop then some (taken.reverse, rest)
    else takeUntil flags stop fuel (c :: taken) (skip flags rest)

/-- The character of hexadecimal digits. -/
def charOfHex? (digits : List Char) : Option Char := do
  let code ← Numeral.digits? 16 digits
  if code < 0xd800 || (0xdfff < code && code < 0x110000) then some (Char.ofNat code) else none

/-- So many hexadecimal digits, with spacing between them. -/
def takeHex (flags : Flags) : (count : Nat) → (taken : List Char) → List Char →
    Option (List Char × List Char)
  | 0, taken, rest => some (taken.reverse, rest)
  | _ + 1, _, [] => none
  | count + 1, taken, c :: rest =>
    if (Numeral.digit? 16 c).isSome then takeHex flags count (c :: taken) (skip flags rest)
    else none

/-- A character by its code, behind the letter that says how it is written. -/
def readHex? (flags : Flags) (letter : Char) (cs : List Char) :
    Option (Primitive × List Char) := do
  match skip flags cs with
  | '\x7b' :: rest => do
    let (digits, rest) ← takeUntil flags '\x7d' (rest.length + 1) [] (skip flags rest)
    return (.literal (← charOfHex? digits) false, skip flags rest)
  | cs => do
    let count := if letter = 'x' then 2 else if letter = 'u' then 4 else 8
    let (digits, rest) ← takeHex flags count [] cs
    return (.literal (← charOfHex? digits) (letter = 'x'), rest)

/-! ## Properties -/

/-- A text cut at the first place where a part occurs. -/
def cutAt? (part : List Char) : (before : List Char) → List Char → Option (String × String)
  | _, [] => none
  | before, c :: rest =>
    if part.isPrefixOf (c :: rest) then
      some (String.ofList before.reverse, String.ofList ((c :: rest).drop part.length))
    else cutAt? part (c :: before) rest

/-- The characters of the text between the braces of a property, and whether the text itself
asks for the complement. -/
def propertyOf? (cs : List Char) : Option (CharSet × Bool) :=
  match cutAt? ['!', '='] [] cs with
  | some (name, value) => (CharProperty.ofValue? name value).map fun s => (s, true)
  | none =>
    match (cutAt? [':'] [] cs).or (cutAt? ['='] [] cs) with
    | some (name, value) => (CharProperty.ofValue? name value).map fun s => (s, false)
    | none => (CharProperty.ofName? (String.ofList cs)).map fun s => (s, false)

/-- A class by a property, behind the letter that says whether it is the complement. -/
def readProperty? (flags : Flags) (negated : Bool) (cs : List Char) :
    Option (Primitive × List Char) := do
  let (name, rest) ← match skip flags cs with
    | [] => none
    | '\x7b' :: rest => takeUntil flags '\x7d' (rest.length + 1) [] (skip flags rest)
    | c :: rest => if c = '\\' then none else some ([c], skip flags rest)
  guard flags.unicode
  let (s, inverse) ← propertyOf? name
  return (.charClass (← negate? flags (negated != inverse) (fold flags s)), rest)

/-! ## Words -/

/-- The condition on words that a name in braces means. -/
def wordLook? (ascii : Bool) : String → Option Look
  | "start" => some (.wordStart ascii)
  | "end" => some (.wordEnd ascii)
  | "start-half" => some (.wordStartHalf ascii)
  | "end-half" => some (.wordEndHalf ascii)
  | _ => none

/-- Whether a character can occur in the name of a condition on words. -/
def isLookLetter (c : Char) : Bool :=
  c.isAlpha || c == '-'

/-- A condition on words. Braces behind it hold a name, or else they are the count of a
repetition. -/
def readWordLook? (flags : Flags) (cs : List Char) : Option (Primitive × List Char) :=
  let ascii := !flags.unicode
  match cs with
  | '\x7b' :: rest =>
    match skip flags rest with
    | [] => none
    | c :: more =>
      if isLookLetter c then do
        let (name, rest) ← takeUntil flags '\x7d' (more.length + 2) [] (c :: more)
        guard (name.all isLookLetter)
        return (.look (← wordLook? ascii (String.ofList name)), rest)
      else some (.look (.wordBoundary ascii), cs)
  | cs => some (.look (.wordBoundary ascii), cs)

/-! ## All escapes -/

/-- What stands behind a backslash. -/
def readEscape? (flags : Flags) : List Char → Option (Primitive × List Char)
  | [] => none
  | c :: rest =>
    let ascii := !flags.unicode
    let plain := fun (c : Char) => some (Primitive.literal c false, rest)
    let look := fun (l : Look) => some (Primitive.look l, rest)
    if "xuU".toList.contains c then readHex? flags c rest
    else if c = 'p' then readProperty? flags false rest
    else if c = 'P' then readProperty? flags true rest
    else if "dswDSW".toList.contains c then
      (shorthand? flags c).map fun s => (.charClass s, rest)
    else match c with
      | 'a' => plain (Char.ofNat 7)
      | 'f' => plain (Char.ofNat 12)
      | 't' => plain '\t'
      | 'n' => plain '\n'
      | 'r' => plain '\r'
      | 'v' => plain (Char.ofNat 11)
      | 'A' => look .textStart
      | 'z' => look .textEnd
      | 'b' => readWordLook? flags rest
      | 'B' => look (.noWordBoundary ascii)
      | '<' => look (.wordStart ascii)
      | '>' => look (.wordEnd ascii)
      | c => if c.toNat < 128 && !c.isAlphanum then plain c else none

end Graft.PatternReader
