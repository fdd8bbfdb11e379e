import Graft.Number.Numeral
import Graft.Text.Blank

/-!
Quoted texts and their escapes.

`decode` gives the text that a token denotes: a pair of matching quotes around it is
dropped, and a backslash begins an escape. An escape names a character by a letter or by
its code point, `\u` followed by four characters or by digits in braces; the end of the
text closes either form early. The first escape that names no character is the error.

`encode` is the other direction, as literals are printed: quotes, backslashes and control
characters are escaped, everything else stands for itself.
-/

set_option autoImplicit false

namespace Graft.Text

/-- Why a token denotes no text. -/
inductive EscapeError where
  /-- A backslash before a character that begins no escape. -/
  | unknown (c : Char)
  /-- A backslash at the end. -/
  | unfinished
  /-- A code point escape whose digits name no character. -/
  | noCharacter (digits : String)
  deriving Repr, DecidableEq

/-- The error in words. -/
def EscapeError.message : EscapeError → String
  | unknown c => "invalid escape sequence `\\" ++ c.toString ++ "`"
  | unfinished => "invalid escape sequence at end of string"
  | noCharacter digits => "invalid escape sequence `\\u" ++ digits ++ "`"

/-! ## Decoding -/

/-- What the characters read so far call for. -/
inductive EscapeState where
  /-- Outside any escape. -/
  | plain
  /-- After a backslash. -/
  | escape
  /-- After the letter of a code point escape. -/
  | codePoint
  /-- Inside the braces of a code point escape, after these characters. -/
  | braced (digits : List Char)
  /-- Among the four characters of a code point escape, after these of them. -/
  | four (digits : List Char)
  deriving Repr, DecidableEq

/-- The character named by the letter of an escape. -/
def escapeLetter? : Char → Option Char
  | 'n' => some '\n'
  | 'r' => some '\r'
  | 't' => some '\t'
  | '0' => some (Char.ofNat 0)
  | '\\' => some '\\'
  | '"' => some '"'
  | '\'' => some '\''
  | _ => none

/-- The character whose code point is written in hexadecimal, unless it is a surrogate or
beyond the last plane. -/
def charOfHex (digits : List Char) : Except EscapeError Char :=
  match Numeral.unsigned? 16 Numeral.shortWordBound digits with
  | some n =>
    if n.isValidChar then .ok (Char.ofNat n) else .error (.noCharacter (String.ofList digits))
  | none => .error (.noCharacter (String.ofList digits))

/-- Decodes escapes from a given state on. -/
def decodeFrom : EscapeState → List Char → Except EscapeError (List Char)
  | .plain, [] => .ok []
  | .escape, [] => .error .unfinished
  | .codePoint, [] => .error (.noCharacter "")
  | .braced digits, [] => do return [← charOfHex digits]
  | .four digits, [] => do return [← charOfHex digits]
  | .plain, c :: rest =>
    if c = '\\' then decodeFrom .escape rest else return c :: (← decodeFrom .plain rest)
  | .escape, c :: rest =>
    if c = 'u' then decodeFrom .codePoint rest
    else match escapeLetter? c with
      | some d => return d :: (← decodeFrom .plain rest)
      | none => .error (.unknown c)
  | .codePoint, c :: rest =>
    if c = '{' then decodeFrom (.braced []) rest else decodeFrom (.four [c]) rest
  | .braced digits, c :: rest =>
    if c = '}' then do
      let d ← charOfHex digits
      return d :: (← decodeFrom .plain rest)
    else decodeFrom (.braced (digits ++ [c])) rest
  | .four digits, c :: rest =>
    if digits.length < 3 then decodeFrom (.four (digits ++ [c])) rest
    else do
      let d ← charOfHex (digits ++ [c])
      return d :: (← decodeFrom .plain rest)

/-- The text between two quotes of one kind, if it is so enclosed. A lone quote is not a
pair. -/
def enclosedBy? (quote : Char) (cs : List Char) : Option (List Char) :=
  match cs with
  | c :: rest =>
    if c = quote then
      match rest.getLast? with
      | some d => if d = quote then some rest.dropLast else none
      | none => none
    else none
  | [] => none

/-- The token without its quotes, if it has a matching pair. -/
def unquoted (cs : List Char) : List Char :=
  match enclosedBy? '"' cs with
  | some inner => inner
  | none => (enclosedBy? '\'' cs).getD cs

/-- The text that a bare or quoted token denotes. -/
def decode (s : String) : Except EscapeError String :=
  (decodeFrom .plain (unquoted s.toList)).map String.ofList

/-! ## Encoding -/

/-- A character as it stands between double quotes. -/
def encodeChar (c : Char) : List Char :=
  if c = '"' then ['\\', '"']
  else if c = '\\' then ['\\', '\\']
  else if c = '\n' then ['\\', 'n']
  else if c = '\r' then ['\\', 'r']
  else if c = '\t' then ['\\', 't']
  else if isControl c then ['\\', 'u', '{'] ++ Numeral.padded 16 4 c.toNat ++ ['}']
  else [c]

/-- A text between double quotes. -/
def quote (s : String) : String :=
  String.ofList ('"' :: (s.toList.flatMap encodeChar ++ ['"']))

example : decode "'a\\tb'" = .ok "a\tb" := by cbv
example : decode "\\u00e9\\u\x7b1F600\x7d" = .ok "é😀" := by cbv
example : decode "\"a\\" = .error .unfinished := by cbv
example : decode "\\q" = .error (.unknown 'q') := by cbv
example : quote "a\"\x01" = "\"a\\\"\\u\x7b0001\x7d\"" := by cbv

end Graft.Text
