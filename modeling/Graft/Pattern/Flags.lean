import Graft.CharProperty.CaseFold
import Graft.Text.Blank

/-!
The flags of patterns, and what they do to characters.
-/

set_option autoImplicit false

namespace Graft.PatternReader

/-- What the flags of a pattern can switch. -/
structure Flags where
  caseless : Bool := false
  multiline : Bool := false
  dotAll : Bool := false
  unicode : Bool := true
  crlf : Bool := false
  spaced : Bool := false
  deriving Repr, DecidableEq, Inhabited

/-- Flags with one of them switched. -/
def Flags.switch? (flags : Flags) (on : Bool) : Char → Option Flags
  | 'i' => some { flags with caseless := on }
  | 'm' => some { flags with multiline := on }
  | 's' => some { flags with dotAll := on }
  | 'U' => some flags
  | 'u' => some { flags with unicode := on }
  | 'R' => some { flags with crlf := on }
  | 'x' => some { flags with spaced := on }
  | _ => none

/-! ## Spacing -/

/-- Skips blanks and comments, which begin with a number sign and end with a line. -/
def skipSpacing : (inComment : Bool) → List Char → List Char
  | _, [] => []
  | true, c :: rest => skipSpacing (c != '\n') rest
  | false, c :: rest =>
    if Text.isBlank c then skipSpacing false rest
    else if c = '#' then skipSpacing true rest
    else c :: rest

/-- Skips blanks and comments if they are meaningless. -/
def skip (flags : Flags) (cs : List Char) : List Char :=
  if flags.spaced then skipSpacing false cs else cs

/-! ## Case -/

/-- A set with the other case of its ASCII letters. -/
def foldAscii (s : CharSet) : CharSet :=
  s.union <| .ofRanges <| (List.range 128).filterMap fun code =>
    let c := Char.ofNat code
    if s.contains c.toUpper || s.contains c.toLower then some (code, code + 1) else none

/-- A set with all case variants, if case is meaningless. -/
def fold (flags : Flags) (s : CharSet) : CharSet :=
  if !flags.caseless then s
  else if flags.unicode then CharProperty.CaseFold.fold s
  else foldAscii s

/-- The set of a character, with its case variants if case is meaningless. -/
def foldChar (flags : Flags) (c : Char) : CharSet :=
  if !flags.caseless then .char c
  else if flags.unicode then
    CharSet.unions (.char c :: (CharProperty.CaseFold.variants c.toNat).map fun code =>
      .char (Char.ofNat code))
  else (CharSet.char c).union (.union (.char c.toUpper) (.char c.toLower))

/-- The complement of a set, if it is asked for. Where characters are bytes it would hold
bytes that are no characters. -/
def negate? (flags : Flags) (negated : Bool) (s : CharSet) : Option CharSet :=
  if !negated then some s
  else if flags.unicode then some s.complement
  else none

end Graft.PatternReader
