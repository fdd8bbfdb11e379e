import Graft.Pattern.CharClass
import Graft.Pattern.Size
import Graft.Text.Letter

/-!
The spelling of patterns.

A pattern is read from left to right. The groups that are open are kept on a stack, each
with the flags that held before it; flags that are set inside a group hold to its end. The
flag for spacing makes blanks and comments meaningless, and every step that may skip them
says so. Without the flag for Unicode, what could match a part of a character is refused.
So are patterns whose parts lie too deep in each other, and those that are too large.

Nothing is answered for texts that are no patterns.
-/

set_option autoImplicit false

namespace Graft

namespace PatternReader

/-! ## Groups -/

/-- How a group begins. -/
inductive GroupHead where
  /-- A group that is counted, and perhaps named. -/
  | capture (name : Option String)
  /-- A group with flags of its own. -/
  | plain (flags : Flags)
  /-- No group, but flags for the rest of the group around it. -/
  | setting (flags : Flags)

/-- Flags up to the end of their list; none is given twice, and a minus sign, which switches
off those behind it, is not the last. -/
def readFlags? (flags : Flags) (seen : List Char) : List Char → Option (GroupHead × List Char)
  | [] => none
  | ':' :: rest => if seen.head? = some '-' then none else some (.plain flags, rest)
  | ')' :: rest =>
    if seen.isEmpty || seen.head? = some '-' then none else some (.setting flags, rest)
  | c :: rest =>
    if seen.contains c then none
    else if c = '-' then readFlags? flags (c :: seen) rest
    else do readFlags? (← flags.switch? (!seen.contains '-') c) (c :: seen) rest

/-- Whether a character can stand in the name of a group, and at its start. -/
def isNameChar (first : Bool) (c : Char) : Bool :=
  c == '_' || Text.isLetter c || (!first && (".[]".toList.contains c || Text.isNumeral c))

/-- The name of a group, which no other group has. -/
def readName? (names : List String) (cs : List Char) : Option (GroupHead × List Char) := do
  let name := cs.takeWhile (· != '>')
  match name, cs.drop name.length with
  | first :: others, '>' :: rest => do
    guard (isNameChar true first && others.all (isNameChar false))
    let name := String.ofList name
    guard (!names.contains name)
    return (.capture (some name), rest)
  | _, _ => none

/-- The beginning of a group, behind its parenthesis. Looking around is not supported. -/
def readGroupHead? (flags : Flags) (names : List String) (cs : List Char) :
    Option (GroupHead × List Char) :=
  match skip flags cs with
  | '?' :: '=' :: _ => none
  | '?' :: '!' :: _ => none
  | '?' :: '<' :: '=' :: _ => none
  | '?' :: '<' :: '!' :: _ => none
  | '?' :: 'P' :: '<' :: rest => readName? names rest
  | '?' :: '<' :: rest => readName? names rest
  | '?' :: rest => readFlags? flags [] rest
  | cs => some (.capture none, cs)

/-! ## Repetitions -/

/-- Digits, each followed by spacing. -/
def takeDigits (flags : Flags) : (fuel : Nat) → (taken : List Char) → List Char →
    List Char × List Char
  | 0, taken, cs => (taken.reverse, cs)
  | fuel + 1, taken, cs =>
    match cs with
    | c :: rest =>
      if c.isDigit then takeDigits flags fuel (c :: taken) (skip flags rest)
      else (taken.reverse, cs)
    | [] => (taken.reverse, [])

/-- A count below 2^32, with blanks around it. -/
def readCount? (flags : Flags) (cs : List Char) : Option (Nat × List Char) := do
  let cs := cs.dropWhile Text.isBlank
  let (digits, rest) := takeDigits flags cs.length [] cs
  let n ← Numeral.digits? 10 digits
  guard (n < Numeral.shortWordBound)
  return (n, skip flags (rest.dropWhile Text.isBlank))

/-- The bounds of a counted repetition, behind the opening brace. -/
def readBounds? (flags : Flags) (cs : List Char) :
    Option ((Nat × Option Nat) × List Char) := do
  let (least, rest) ← readCount? flags (skip flags cs)
  match rest with
  | '\x7d' :: rest => return ((least, some least), skip flags rest)
  | ',' :: rest =>
    match skip flags rest with
    | '\x7d' :: rest => return ((least, none), skip flags rest)
    | rest => do
      let (most, rest) ← readCount? flags rest
      match rest with
      | '\x7d' :: rest => do
        guard (least ≤ most)
        return ((least, some most), skip flags rest)
      | _ => none
  | _ => none

/-- Drops the mark of a repetition that prefers to be short, which finds the same texts. -/
def dropLazy : List Char → List Char
  | '?' :: rest => rest
  | cs => cs

/-! ## Parts -/

/-- A part of a pattern, and its depth: how many brackets, repetitions, groups, alternatives
and sequences lie in each other there. -/
structure Part where
  pattern : Pattern
  depth : Nat

namespace Part

/-- A part in which no others lie. -/
def flat (p : Pattern) : Part := ⟨p, 0⟩

/-- A part inside of another one. -/
def within (p : Part) (make : Pattern → Pattern) : Part :=
  ⟨make p.pattern, p.depth + 1⟩

/-- Parts as one, where several of them lie in a part of their own. -/
def gather (make : Pattern → Pattern → Pattern) (none : Pattern) (parts : List Part) : Part :=
  match parts with
  | [] => flat none
  | [p] => p
  | parts =>
    ⟨(parts.dropLast.map pattern).foldr make ((parts.getLast?.map pattern).getD none),
      (parts.map depth).foldl max 0 + 1⟩

end Part

/-- What has been read of a group. -/
structure Level where
  /-- The flags that hold again behind the group. -/
  saved : Flags
  /-- What the group makes of what it holds. -/
  make : Pattern → Pattern
  /-- The alternatives before the current one, the last one first. -/
  alternatives : List Part
  /-- The items of the current alternative, the last one first; nothing stands for flags. -/
  items : List (Option Part)

namespace Level

/-- A group in which nothing has been read. -/
def blank (saved : Flags) (make : Pattern → Pattern) : Level :=
  ⟨saved, make, [], []⟩

/-- The group with one more item. -/
def push (l : Level) (p : Option Part) : Level :=
  { l with items := p :: l.items }

/-- The current alternative. -/
def current (l : Level) : Part :=
  .gather .followedBy .empty (l.items.reverse.map fun item => item.getD (.flat .empty))

/-- What the group holds. -/
def content (l : Level) : Part :=
  .gather .alt .empty (l.current :: l.alternatives).reverse

/-- The group as a part of what is around it. -/
def close (l : Level) : Part :=
  l.content.within l.make

/-- The group at the start of its next alternative. -/
def next (l : Level) : Level :=
  { l with alternatives := l.current :: l.alternatives, items := [] }

/-- The group with its last item repeated; there has to be one. -/
def repeated? (l : Level) (least : Nat) (most : Option Nat) : Option Level :=
  match l.items with
  | some p :: rest =>
    some { l with items := some (p.within fun a => a.times least most) :: rest }
  | _ => none

end Level

/-! ## Items -/

/-- The pattern of a character. -/
def literal? (flags : Flags) (c : Char) (byte : Bool) : Option Pattern :=
  if flags.unicode || c.toNat < 128 then some (.one (foldChar flags c))
  else if byte then none
  else some (.one (.char c))

/-- The pattern of a primitive. -/
def ofPrimitive? (flags : Flags) : Primitive → Option Pattern
  | .literal c byte => literal? flags c byte
  | .charClass s => some (.one s)
  | .look l => some (.look l)

/-- The pattern of the dot: any character, or any that does not end a line. -/
def dot? (flags : Flags) : Option Pattern :=
  if !flags.unicode then none
  else some <| .one <|
    if flags.dotAll then .all
    else if flags.crlf then CharSet.complement ((CharSet.char '\n').union (.char '\r'))
    else CharSet.complement (.char '\n')

/-- One item that is no group, no class in brackets and no repetition. -/
def readAtom? (flags : Flags) : List Char → Option (Pattern × List Char)
  | [] => none
  | '\\' :: rest => do
    let (p, rest) ← readEscape? flags rest
    return (← ofPrimitive? flags p, rest)
  | '.' :: rest => (dot? flags).map fun p => (p, rest)
  | '^' :: rest =>
    some (.look (if flags.multiline then .lineStart flags.crlf else .textStart), rest)
  | '$' :: rest =>
    some (.look (if flags.multiline then .lineEnd flags.crlf else .textEnd), rest)
  | c :: rest => (literal? flags c false).map fun p => (p, rest)

/-! ## Whole patterns -/

/-- The rest of a pattern, inside a group that is inside others. -/
def readRest? : (fuel : Nat) → Flags → (names : List String) → Level → (outer : List Level) →
    List Char → Option Part
  | 0, _, _, _, _, _ => none
  | fuel + 1, flags, names, level, outer, cs =>
    match skip flags cs with
    | [] => if outer.isEmpty then some level.content else none
    | '(' :: rest => do
      match ← readGroupHead? flags names rest with
      | (.capture name, rest) =>
        readRest? fuel flags (name.toList ++ names) (.blank flags .group) (level :: outer) rest
      | (.plain inner, rest) =>
        readRest? fuel inner names (.blank flags id) (level :: outer) rest
      | (.setting flags, rest) => readRest? fuel flags names (level.push none) outer rest
    | ')' :: rest =>
      match outer with
      | [] => none
      | parent :: outer =>
        readRest? fuel level.saved names (parent.push (some level.close)) outer rest
    | '|' :: rest => readRest? fuel flags names level.next outer rest
    | '[' :: rest => do
      let (c, rest) ← readClass? flags (2 * rest.length + 2) rest
      readRest? fuel flags names (level.push (some ⟨.one c.set, c.depth⟩)) outer rest
    | '?' :: rest => do
      readRest? fuel flags names (← level.repeated? 0 (some 1)) outer (dropLazy rest)
    | '*' :: rest => do
      readRest? fuel flags names (← level.repeated? 0 none) outer (dropLazy rest)
    | '+' :: rest => do
      readRest? fuel flags names (← level.repeated? 1 none) outer (dropLazy rest)
    | '\x7b' :: rest => do
      let ((least, most), rest) ← readBounds? flags rest
      readRest? fuel flags names (← level.repeated? least most) outer (dropLazy rest)
    | cs => do
      let (p, rest) ← readAtom? flags cs
      readRest? fuel flags names (level.push (some (.flat p))) outer rest

/-- The greatest depth of a pattern. -/
def greatestDepth : Nat := 250

end PatternReader

/-- The pattern that a text is. -/
def Pattern.ofText? (s : String) : Option Pattern := do
  let part ← PatternReader.readRest? (s.length + 1) {} [] (.blank {} id) [] s.toList
  if part.depth ≤ PatternReader.greatestDepth && part.pattern.fits then some part.pattern
  else none

example : Pattern.ofText? "a(?:)|b?" = some (.alt (.one (.char 'a'))
    (.repeated (.one (.char 'b')) 0 (some 1))) := by decide +kernel
example : Pattern.ofText? "(?:)(" = none := by decide +kernel
example : Pattern.ofText? "a{400000}" = none := by decide +kernel

end Graft
