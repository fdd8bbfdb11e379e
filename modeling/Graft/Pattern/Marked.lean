import Graft.Pattern.Basic

/-!
Whether a pattern occurs in a text.

The pattern is walked through together with the text. Between two characters of the text,
the characters of the pattern that the last character of the text was matched with are
marked. Reading on moves every mark to the characters of the pattern that can follow and
that match, and sets new marks where the pattern can begin, since it may occur anywhere. The
pattern occurs if a mark ever reaches its end, or if it matches the empty text at some
place.

Every part of a marked pattern carries what its marks and the place in the text mean for
it, so that a part without marks, which no mark enters and which looks at no place, is left
alone. Counted repetitions are written out, and share their copies until marks tell these
apart.
-/

set_option autoImplicit false

namespace Graft

namespace Pattern

/-- What holds of a part of a pattern at a place in the text. -/
structure Status where
  /-- A text of the part ends here. -/
  ends : Bool
  /-- The empty text here is one of the part. -/
  skips : Bool
  /-- There are no marks. -/
  idle : Bool
  /-- No condition on places occurs. -/
  fixed : Bool
  deriving Repr, DecidableEq

/-- A pattern with marks. -/
inductive Marked where
  | empty
  | one (c : CharSet) (mark : Bool)
  | look (l : Look) (holds : Bool)
  | seq (a b : Marked) (s : Status)
  | alt (a b : Marked) (s : Status)
  | star (a : Marked) (s : Status)

namespace Marked

/-- What holds of a marked pattern. -/
def status : Marked → Status
  | empty => ⟨false, true, true, true⟩
  | one _ mark => ⟨mark, false, !mark, true⟩
  | look _ holds => ⟨false, holds, true, false⟩
  | seq _ _ s => s
  | alt _ _ s => s
  | star _ s => s

/-- One marked pattern behind another. -/
def mkSeq (a b : Marked) : Marked :=
  let s := a.status
  let t := b.status
  let ends := t.ends || (s.ends && t.skips)
  seq a b ⟨ends, s.skips && t.skips, s.idle && t.idle, s.fixed && t.fixed⟩

/-- One of two marked patterns. -/
def mkAlt (a b : Marked) : Marked :=
  let s := a.status
  let t := b.status
  alt a b ⟨s.ends || t.ends, s.skips || t.skips, s.idle && t.idle, s.fixed && t.fixed⟩

/-- A marked pattern any number of times. -/
def mkStar (a : Marked) : Marked :=
  let s := a.status
  star a ⟨s.ends, true, s.idle, s.fixed⟩

/-- A marked pattern so many times. Both halves are one pattern. -/
def power (a : Marked) (n : Nat) : Marked :=
  if n = 0 then empty
  else if n = 1 then a
  else
    let half := power a (n / 2)
    let even := mkSeq half half
    if n % 2 = 0 then even else mkSeq even a
termination_by n
decreasing_by omega

/-- A pattern without marks at a place between two characters. -/
def ofPattern (before after : Option Char) : Pattern → Marked
  | .empty => empty
  | .one c => one c false
  | .look l => look l (l.holds before after)
  | .group a => ofPattern before after a
  | .seq a b => mkSeq (ofPattern before after a) (ofPattern before after b)
  | .alt a b => mkAlt (ofPattern before after a) (ofPattern before after b)
  | .repeated a least most =>
    let a := ofPattern before after a
    match most with
    | none => mkSeq (power a least) (mkStar a)
    | some most => mkSeq (power a least) (power (mkAlt a empty) (most - least))

/-- Reads a character of the text, to arrive between it and the one after it. `enter` says
whether a text of the pattern can begin before the character. -/
def read (c : Char) (after : Option Char) (enter : Bool) (r : Marked) : Marked :=
  let s := r.status
  if !enter && s.idle && s.fixed then r
  else match r with
    | empty => empty
    | one k _ => one k (enter && k.contains c)
    | look l _ => look l (l.holds (some c) after)
    | seq a b _ =>
      mkSeq (read c after enter a)
        (read c after (a.status.ends || (enter && a.status.skips)) b)
    | alt a b _ => mkAlt (read c after enter a) (read c after enter b)
    | star a _ => mkStar (read c after (enter || a.status.ends) a)

/-- Whether a text of the pattern ends here or further on. -/
def endsWithin (r : Marked) : List Char → Bool
  | [] => r.status.ends || r.status.skips
  | c :: rest =>
    r.status.ends || r.status.skips || endsWithin (read c rest.head? true r) rest

end Marked

/-- Whether a pattern occurs somewhere in a text. -/
def occursIn (p : Pattern) (s : String) : Bool :=
  let cs := s.toList
  (Marked.ofPattern none cs.head? p).endsWithin cs

example : occursIn (.repeated (.one (.char 'a')) 2 none) "baab" = true := by decide +kernel
example : occursIn (.seq (.look .textStart) (.one (.char 'a'))) "ba" = false := by decide +kernel

end Pattern

end Graft
