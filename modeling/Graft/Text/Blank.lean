import Graft.Text.CharSet

/-!
Blank and control characters, and trimming.

Blanks are the characters with the Unicode property White_Space; control characters are
those of the general category Cc. Neither class has grown in many years.
-/

set_option autoImplicit false

namespace Graft.Text

/-- Where the property White_Space begins and ends. -/
def blanks : CharSet where
  bounds := #[
    0x9, 0xe, 0x20, 0x21, 0x85, 0x86, 0xa0, 0xa1, 0x1680, 0x1681, 0x2000, 0x200b, 0x2028, 0x202a,
    0x202f, 0x2030, 0x205f, 0x2060, 0x3000, 0x3001]

/-- A character with the property White_Space. -/
def isBlank (c : Char) : Bool :=
  blanks.contains c

/-- A character of the general category Cc: below the space, or from DEL to U+009F. -/
def isControl (c : Char) : Bool :=
  c.toNat < 0x20 || (0x7f ≤ c.toNat && c.toNat < 0xa0)

/-- The text without the blanks at its two ends. -/
def trim (s : String) : String :=
  String.ofList ((s.toList.dropWhile isBlank).reverse.dropWhile isBlank).reverse

/-- A text of blanks only, the empty text included. -/
def isBlankText (s : String) : Bool :=
  s.toList.all isBlank

example : trim "\t a b\n" = "a b" := by decide +kernel
example : isBlankText "\u3000" = true := by decide +kernel

end Graft.Text
