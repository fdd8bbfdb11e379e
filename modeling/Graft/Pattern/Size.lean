import Graft.Pattern.Basic

/-!
How large the automata of a pattern are.

A pattern is refused if it takes too much room. What counts are the bytes of two automata
that read the bytes of a text, one forward and one backward. Each state takes 32 bytes, each
way out of a state that has several takes 8 bytes if it is marked with bytes and 4 if not.
Repetitions are written out.
-/

set_option autoImplicit false

namespace Graft

/-! ## The bytes of characters -/

/-- Sequences of bytes, each between two bounds. -/
abbrev ByteSpans := List (Nat × Nat)

namespace ByteSpans

/-- A power of the number of values that a byte has behind the first one of a character. -/
def tailValues (n : Nat) : Nat := Nat.pow 64 n

/-- All values of a byte behind the first one. -/
def anyTail : Nat × Nat := (0x80, 0xbf)

/-- The bytes of the numbers from `a` to `b`, of which all but the first `n` bytes hold six
binary digits; `base` is added to the first one. -/
def ofNumbers : (n base a b : Nat) → List ByteSpans
  | 0, base, a, b => [[(base + a, base + b)]]
  | n + 1, base, a, b =>
    let unit := tailValues (n + 1)
    let (first, last) := (a / unit, b / unit)
    let (low, high) := (a % unit, b % unit)
    if first = last then (ofNumbers n 0x80 low high).map ((base + first, base + first) :: ·)
    else
      let fromStart := low = 0
      let toEnd := high = unit - 1
      let head := if fromStart then []
        else (ofNumbers n 0x80 low (unit - 1)).map ((base + first, base + first) :: ·)
      let tail := if toEnd then []
        else (ofNumbers n 0x80 0 high).map ((base + last, base + last) :: ·)
      let start := if fromStart then first else first + 1
      let stop := if toEnd then last else last - 1
      let body := if start ≤ stop
        then [(base + start, base + stop) :: List.replicate (n + 1) anyTail] else []
      head ++ body ++ tail

/-- The characters with as many bytes: how many follow the first one, what is added to it,
and the bounds of the characters. -/
def lengths : List (Nat × Nat × Nat × Nat) :=
  [(0, 0, 0, 0x7f), (1, 0xc0, 0x80, 0x7ff), (2, 0xe0, 0x800, 0xffff), (3, 0xf0, 0x10000, 0x10ffff)]

/-- The bytes of the characters from one code point up to another. -/
def ofRange (range : Nat × Nat) : List ByteSpans :=
  lengths.flatMap fun (n, base, least, most) =>
    let a := max least range.1
    let b := min most (range.2 - 1)
    if a ≤ b then ofNumbers n base a b else []

/-- The bytes of the characters of a set. -/
def ofSet (s : CharSet) : List ByteSpans :=
  s.ranges.flatMap ofRange

/-- The number of different beginnings of sequences that follow a given one in order. -/
def countBeginnings : (before : ByteSpans) → List ByteSpans → Nat
  | _, [] => 0
  | before, spans :: rest =>
    let common := ((before.zip spans).takeWhile fun (x, y) => x = y).length
    spans.length - common + countBeginnings spans rest

/-- The sequences by their first bytes: what follows the same first bytes is put together. -/
def byFirst : List ByteSpans → List ((Nat × Nat) × List ByteSpans)
  | [] => []
  | [] :: rest => byFirst rest
  | (first :: spans) :: rest =>
    match byFirst rest with
    | (other, more) :: groups =>
      if first = other then (other, spans :: more) :: groups
      else (first, [spans]) :: (other, more) :: groups
    | [] => [(first, [spans])]

/-- What can be left to read of sequences, apart from nothing, at every branch of the tree
of their beginnings. -/
def remainders : (steps : Nat) → List ByteSpans → List (List ByteSpans)
  | 0, _ => []
  | steps + 1, spans =>
    let rests := (byFirst spans).map Prod.snd
    spans :: (rests.filter fun rest => rest ≠ [[]]).flatMap (remainders steps)

example : ofRange (0xff, 0x801) =
    [[(0xc3, 0xc3), (0xbf, 0xbf)], [(0xc4, 0xdf), (0x80, 0xbf)],
      [(0xe0, 0xe0), (0xa0, 0xa0), (0x80, 0x80)]] := by decide +kernel

end ByteSpans

namespace Pattern

/-! ## The room of automata -/

/-- The bytes of a state. -/
def stateSize : Nat := 32

/-- The bytes of a way out that is marked with bytes. -/
def markedSize : Nat := 8

/-- The bytes of a way out that is not marked. -/
def plainSize : Nat := 4

/-- How much room an automaton takes for single characters and for groups, and apart from
the pattern. -/
structure Room where
  oneOf : CharSet → Nat
  group : Nat
  frame : Nat

namespace Room

/-- The room of an automaton for a character of a set, of which it is known that it holds
not one character alone and some beyond ASCII. -/
def oneOfMany (many : CharSet → Nat) (s : CharSet) : Nat :=
  match s.single? with
  | some c => stateSize * c.utf8Size
  | none =>
    if s.isNothing then stateSize
    else if s.isAscii then 2 * stateSize + markedSize * s.ranges.length
    else many s

/-- The room for a character forward: beginnings that leave the same to be read share a
state. -/
def manyForward (s : CharSet) : Nat :=
  let states := (ByteSpans.remainders 4 (ByteSpans.ofSet s)).eraseDups
  let ways := states.foldl (fun ways spans => ways + (ByteSpans.byFirst spans).length) 0
  stateSize * (states.length + 1) + markedSize * ways

/-- The room for a character backward: every beginning has a state, and one has a way to
each character. -/
def manyBackward (s : CharSet) : Nat :=
  let spans := ByteSpans.ofSet s
  stateSize * (ByteSpans.countBeginnings [] spans + 2) + plainSize * spans.length

/-- More room than is needed for a character, which is quick to tell. -/
def manyAtMost (s : CharSet) : Nat :=
  2 * stateSize + 7 * (4 * stateSize + plainSize) * s.ranges.length

/-- The automaton that reads forward and notes where groups begin and end. -/
def forward : Room := ⟨oneOfMany manyForward, 2 * stateSize, 6 * stateSize + 16⟩

/-- The automaton that reads backward. -/
def backward : Room := ⟨oneOfMany manyBackward, 0, 4 * stateSize + 16⟩

/-- A bound for both automata. -/
def bound : Room := ⟨oneOfMany manyAtMost, 2 * stateSize, 6 * stateSize + 16⟩

/-- The room for `size` so many times. -/
def repeated (size : Nat) (wide : Bool) (least : Nat) (most : Option Nat) : Nat :=
  match most with
  | none =>
    if least = 0 && !wide then size + 3 * stateSize + 4 * plainSize
    else size * max least 1 + stateSize + 2 * plainSize
  | some most =>
    let exactly := if least = 0 then stateSize else size * least
    if least = 0 && most = 1 then size + 2 * stateSize + 2 * plainSize
    else if most ≤ least then exactly
    else exactly + stateSize + (most - least) * (size + stateSize + 2 * plainSize)

end Room

/-- The room of a pattern, as one of several alternatives. -/
structure Extent where
  /-- The number of alternatives. -/
  branches : Nat
  /-- The room of all alternatives. -/
  size : Nat
  /-- The characters of all alternatives, if each of them is one character. -/
  ones : Option CharSet

/-- The room of alternatives with what holds them together. -/
def Extent.total (e : Extent) (room : Room) : Nat :=
  match e.ones with
  | some s => room.oneOf s
  | none => if e.branches = 1 then e.size else e.size + 2 * stateSize + e.branches * plainSize

/-- The room of the alternatives of a pattern. -/
def extent (room : Room) : Pattern → Extent
  | empty => ⟨1, stateSize, none⟩
  | one c => ⟨1, room.oneOf c, some c⟩
  | look _ => ⟨1, stateSize, none⟩
  | group a => ⟨1, (extent room a).total room + room.group, none⟩
  | seq a b => ⟨1, (extent room a).total room + (extent room b).total room, none⟩
  | alt a b =>
    let x := extent room a
    let y := extent room b
    ⟨x.branches + y.branches, x.size + y.size, do return (← x.ones).union (← y.ones)⟩
  | repeated a least most =>
    ⟨1, Room.repeated ((extent room a).total room) a.isWide least most, none⟩

/-- The bytes of an automaton of a pattern. -/
def size (room : Room) (p : Pattern) : Nat :=
  (p.extent room).total room + room.frame

/-- The room that an automaton can take. -/
def mostRoom : Nat := 10 * 1024 * 1024

/-- Whether the automata of a pattern have room enough. -/
def fits (p : Pattern) : Bool :=
  p.size .bound ≤ mostRoom || (p.size .forward ≤ mostRoom && p.size .backward ≤ mostRoom)

end Pattern

end Graft
