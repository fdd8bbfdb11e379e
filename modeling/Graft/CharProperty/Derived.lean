import Graft.CharProperty.Category
import Graft.CharProperty.Emoji
import Graft.CharProperty.Listed

/-!
Properties of characters that follow from others, in version 16 of Unicode: letters
and words, what identifiers consist of, and what extends another character.
-/

set_option autoImplicit false

namespace Graft.CharProperty

/-! ## Letters and words -/

/-- All characters but unassigned ones. -/
def assigned : CharSet :=
  (Category.setOf [.cn]).complement

/-- Lower-case characters. -/
def lowercase : CharSet :=
  (Category.setOf [.ll]).union otherLowercase

/-- Upper-case characters. -/
def uppercase : CharSet :=
  (Category.setOf [.lu]).union otherUppercase

/-- Characters of upper, lower or title case. -/
def cased : CharSet :=
  .unions [lowercase, uppercase, Category.setOf [.lt]]

/-- Letters and the like. -/
def alphabetic : CharSet :=
  .unions [cased, Category.setOf [.lm, .lo, .nl], otherAlphabetic]

/-- Digits of decimal numbers. -/
def decimalDigit : CharSet :=
  Category.setOf [.nd]

/-- Mathematical characters. -/
def math : CharSet :=
  (Category.setOf [.sm]).union otherMath

/-- Blanks. -/
def whiteSpace : CharSet :=
  (Category.setOf [.zs, .zl, .zp]).union ⟨#[0x9, 0xe, 0x85, 0x86]⟩

/-- Dashes. -/
def dash : CharSet :=
  (Category.setOf [.pd]).union
    ⟨#[0x2053, 0x2054, 0x207b, 0x207c, 0x208b, 0x208c, 0x2212, 0x2213]⟩

/-- Characters that make their neighbours join, or keep them from it. -/
def joinControl : CharSet := ⟨#[0x200c, 0x200e]⟩

/-- What words are made of: alphabetic characters, marks, decimal digits, connecting
punctuation and the two joiners. -/
def word : CharSet :=
  .unions [alphabetic, Category.setOf [.mn, .mc, .me, .nd, .pc], joinControl]

/-- The digits of hexadecimal numbers in ASCII. -/
def asciiHexDigit : CharSet := ⟨#[0x30, 0x3a, 0x41, 0x47, 0x61, 0x67]⟩

/-- The digits of hexadecimal numbers, also in full width. -/
def hexDigit : CharSet :=
  asciiHexDigit.union ⟨#[0xff10, 0xff1a, 0xff21, 0xff27, 0xff41, 0xff47]⟩

/-- Code points that never become characters: a block of their own, and the last two of
every plane. -/
def noncharacter : CharSet :=
  CharSet.union ⟨#[0xfdd0, 0xfdf0]⟩
    (.ofRanges ((List.range 17).map fun plane => (0x10000 * plane + 0xfffe, 0x10000 * (plane + 1))))

/-- Letters that stand for those of a code of a region. -/
def regionalIndicator : CharSet := ⟨#[0x1f1e6, 0x1f200]⟩

/-- Characters that choose the colour of a picture. -/
def emojiModifier : CharSet := ⟨#[0x1f3fb, 0x1f400]⟩

/-! ## Characters that extend others -/

/-- Characters that extend the one before them. -/
def graphemeExtend : CharSet :=
  (Category.setOf [.mn, .me]).union otherGraphemeExtend

/-- Characters that stand by themselves. -/
def graphemeBase : CharSet :=
  (Category.setOf [.cc, .cf, .cs, .co, .cn, .zl, .zp]).complement.diff graphemeExtend

/-- Code points that are ignored where they cannot be shown. -/
def defaultIgnorable : CharSet :=
  (CharSet.unions [otherDefaultIgnorable, Category.setOf [.cf], variationSelector]).diff <|
    .unions [whiteSpace, prependedConcatenationMark, ⟨#[0xfff9, 0xfffc, 0x13430, 0x13440]⟩]

/-! ## Identifiers -/

/-- Characters that are kept for formal languages. -/
def patternCharacters : CharSet :=
  patternSyntax.union patternWhiteSpace

/-- Characters at the start of identifiers. -/
def idStart : CharSet :=
  ((Category.setOf [.lu, .ll, .lt, .lm, .lo, .nl]).union otherIdStart).diff patternCharacters

/-- Characters of identifiers. -/
def idContinue : CharSet :=
  (CharSet.unions [idStart, Category.setOf [.mn, .mc, .nd, .pc], otherIdContinue]).diff
    patternCharacters

/-- Characters of identifiers that turn into others when they are brought into a normal
form. -/
def unstable : CharSet where
  bounds := #[
    0x37a, 0x37b, 0x309b, 0x309d, 0xfc5e, 0xfc64, 0xfdfa, 0xfdfc, 0xfe70, 0xfe71, 0xfe72, 0xfe73,
    0xfe74, 0xfe75, 0xfe76, 0xfe77, 0xfe78, 0xfe79, 0xfe7a, 0xfe7b, 0xfe7c, 0xfe7d, 0xfe7e, 0xfe7f]

/-- Characters that turn into ones that cannot start an identifier. -/
def unstableStart : CharSet :=
  unstable.union ⟨#[0xe33, 0xe34, 0xeb3, 0xeb4, 0xff9e, 0xffa0]⟩

/-- Characters at the start of identifiers that remain some. -/
def xidStart : CharSet :=
  idStart.diff unstableStart

/-- Characters of identifiers that remain some. -/
def xidContinue : CharSet :=
  idContinue.diff unstable

end Graft.CharProperty
