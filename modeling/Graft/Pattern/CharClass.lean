import Graft.Pattern.Escape

/-!
Classes of characters in brackets.

A class consists of items, one behind another, and of operations between them, which are
taken from left to right: everything between two operations is one operand. Where spacing
is meaningless it may stand between any two signs, but not inside of an operation.

Besides its characters, every part of a class has a depth: how many brackets, operations
and unions of several items lie in each other there.
-/

set_option autoImplicit false

namespace Graft.PatternReader

/-- A part of a class: its characters, and its depth. -/
structure ClassPart where
  set : CharSet
  depth : Nat

/-! ## Items -/

/-- The class of a name between the colons of `[:name:]`. -/
def asciiClass? : String → Option CharSet
  | "alnum" => some (.ofSpans [('0', '9'), ('A', 'Z'), ('a', 'z')])
  | "alpha" => some (.ofSpans [('A', 'Z'), ('a', 'z')])
  | "ascii" => some .ascii
  | "blank" => some (.ofSpans [('\t', '\t'), (' ', ' ')])
  | "cntrl" => some ((CharSet.range 0 0x1f).union (.range 0x7f 0x7f))
  | "digit" => some (.ofSpans [('0', '9')])
  | "graph" => some (.ofSpans [('!', '~')])
  | "lower" => some (.ofSpans [('a', 'z')])
  | "print" => some (.ofSpans [(' ', '~')])
  | "punct" => some (.ofSpans [('!', '/'), (':', '@'), ('[', '`'), ('\x7b', '~')])
  | "space" => some (.ofSpans [('\t', '\r'), (' ', ' ')])
  | "upper" => some (.ofSpans [('A', 'Z')])
  | "word" => some (.ofSpans [('0', '9'), ('A', 'Z'), ('_', '_'), ('a', 'z')])
  | "xdigit" => some (.ofSpans [('0', '9'), ('A', 'F'), ('a', 'f')])
  | _ => none

/-- A class by its name, behind its opening bracket, and whether its complement is meant. -/
def readNamed? : List Char → Option ((CharSet × Bool) × List Char)
  | ':' :: rest => do
    let (negated, rest) := match rest with
      | '^' :: rest => (true, rest)
      | rest => (false, rest)
    let name := rest.takeWhile (· != ':')
    match rest.drop name.length with
    | ':' :: ']' :: rest => return ((← asciiClass? (String.ofList name), negated), rest)
    | _ => none
  | _ => none

/-- One character or class of a bracketed class. -/
def readPrimitive? (flags : Flags) : List Char → Option (Primitive × List Char)
  | [] => none
  | '\\' :: rest => readEscape? flags rest
  | c :: rest => some (.literal c false, rest)

/-- The character of a primitive. -/
def charOf? (flags : Flags) : Primitive → Option Char
  | .literal c _ => if flags.unicode || c.toNat < 128 then some c else none
  | _ => none

/-- The characters of a primitive. -/
def setOf? (flags : Flags) : Primitive → Option CharSet
  | .charClass s => some s
  | p => (charOf? flags p).map .char

/-- The sign that decides what a hyphen before it means. Where spacing is meaningless,
blanks and one number sign are passed over, but nothing of the comment that it begins; if
there is nothing else, it is the first sign after all. -/
def signBehindHyphen? (flags : Flags) (cs : List Char) : Option Char :=
  if flags.spaced then
    let cs' := match cs.dropWhile Text.isBlank with
      | '#' :: rest => rest.dropWhile Text.isBlank
      | rest => rest
    cs'.head?.or cs.head?
  else cs.head?

/-- A range of characters, or one character or class. -/
def readItem? (flags : Flags) (cs : List Char) : Option (CharSet × List Char) := do
  let (first, rest) ← readPrimitive? flags cs
  match skip flags rest with
  | [] => none
  | '-' :: more =>
    if [some ']', some '-'].contains (signBehindHyphen? flags more) then
      return (← setOf? flags first, '-' :: more)
    else
      let (last, rest) ← readPrimitive? flags (skip flags more)
      let a ← charOf? flags first
      let b ← charOf? flags last
      guard (a ≤ b)
      return (.range a.toNat b.toNat, rest)
  | rest => return (← setOf? flags first, rest)

/-! ## Operands -/

/-- The items of an operand that have been read. -/
structure Operand where
  set : CharSet
  /-- The number of items. -/
  count : Nat
  /-- The greatest depth of an item. -/
  deepest : Nat

namespace Operand

/-- No items. -/
def none : Operand := ⟨.nothing, 0, 0⟩

/-- One more item. -/
def add (o : Operand) (item : ClassPart) : Operand :=
  ⟨o.set.union item.set, o.count + 1, max o.deepest item.depth⟩

/-- One more item that lies in no other. -/
def addFlat (o : Operand) (s : CharSet) : Operand :=
  o.add ⟨s, 0⟩

/-- The operand as a part of a class. Several items are a union. -/
def part (o : Operand) : ClassPart :=
  ⟨o.set, if 2 ≤ o.count then o.deepest + 1 else o.deepest⟩

end Operand

/-- The operations between the operands of a class. -/
inductive SetOp where
  | intersection
  | difference
  | symmetricDifference
  deriving Repr, DecidableEq

/-- The set that an operation makes of two. -/
def SetOp.apply : SetOp → CharSet → CharSet → CharSet
  | intersection => .inter
  | difference => .diff
  | symmetricDifference => .symmDiff

/-- What stands before an operation, if there is one, with the operand behind it. -/
def combine (flags : Flags) (left : Option (SetOp × ClassPart)) (right : ClassPart) : ClassPart :=
  match left with
  | none => right
  | some (op, left) =>
    ⟨op.apply (fold flags left.set) (fold flags right.set), max left.depth right.depth + 1⟩

/-! ## Classes -/

/-- Hyphens at the start of a class, which stand for themselves. -/
def leadingHyphens (flags : Flags) : (fuel : Nat) → Operand → List Char → Operand × List Char
  | fuel + 1, o, '-' :: rest =>
    leadingHyphens flags fuel (o.addFlat (.char '-')) (skip flags rest)
  | _, o, cs => (o, cs)

mutual

/-- A class, behind its opening bracket. -/
def readClass? (flags : Flags) : (fuel : Nat) → List Char → Option (ClassPart × List Char)
  | 0, _ => none
  | fuel + 1, cs => do
    let (negated, cs) := match skip flags cs with
      | '^' :: rest => (true, skip flags rest)
      | cs => (false, cs)
    let (start, cs) := leadingHyphens flags cs.length .none cs
    let (start, cs) := match start.count, cs with
      | 0, ']' :: rest => (start.addFlat (.char ']'), skip flags rest)
      | _, cs => (start, cs)
    let (content, rest) ← readOperands? flags fuel none start cs
    return (⟨← negate? flags negated (fold flags content.set), content.depth + 1⟩, rest)

/-- The operands of a class up to its closing bracket, behind an operation and the items
since. -/
def readOperands? (flags : Flags) : (fuel : Nat) → (left : Option (SetOp × ClassPart)) →
    (items : Operand) → List Char → Option (ClassPart × List Char)
  | 0, _, _, _ => none
  | fuel + 1, left, items, cs =>
    let operation := fun (op : SetOp) (rest : List Char) =>
      readOperands? flags fuel (some (op, combine flags left items.part)) .none rest
    match skip flags cs with
    | [] => none
    | ']' :: rest => some (combine flags left items.part, rest)
    | '[' :: rest =>
      match readNamed? rest with
      | some ((s, negated), rest) => do
        let s ← negate? flags negated (fold flags s)
        readOperands? flags fuel left (items.addFlat s) rest
      | none => do
        let (inner, rest) ← readClass? flags fuel rest
        readOperands? flags fuel left (items.add inner) rest
    | '&' :: '&' :: rest => operation .intersection rest
    | '-' :: '-' :: rest => operation .difference rest
    | '~' :: '~' :: rest => operation .symmetricDifference rest
    | cs => do
      let (s, rest) ← readItem? flags cs
      readOperands? flags fuel left (items.addFlat s) rest

end

end Graft.PatternReader
