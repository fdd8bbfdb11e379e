import Graft.CharProperty.Derived
import Graft.CharProperty.Script

/-!
Where texts break into user-perceived characters, words and sentences: the classes that
characters have for that purpose in version 16 of Unicode.

Every character has at most one class for each of the three. Most classes are defined by
other properties with a few exceptions, the rest by lists.
-/

set_option autoImplicit false

namespace Graft.CharProperty

/-- The carriage return. -/
def carriageReturn : CharSet := ⟨#[0xd, 0xe]⟩

/-- The line feed. -/
def lineFeed : CharSet := ⟨#[0xa, 0xb]⟩

/-- The character that joins its neighbours. -/
def joiner : CharSet := ⟨#[0x200d, 0x200e]⟩

/-- The script of a name. -/
def scriptNamed (name : String) : CharSet :=
  ((Script.named? name).map Script.set).getD .nothing

/-! ## User-perceived characters -/

namespace GraphemeBreak

/-- Characters that extend the one before them. -/
def extend : CharSet :=
  graphemeExtend.union emojiModifier

/-- Control characters. -/
def control : CharSet :=
  (CharSet.unions [Category.setOf [.zl, .zp, .cc, .cf],
    (Category.setOf [.cn]).inter defaultIgnorable]).diff <|
      .unions [carriageReturn, lineFeed, joinControl, prependedConcatenationMark, graphemeExtend]

/-- Marks with width that do not stay with the one before them. -/
def freeMarks : CharSet where
  bounds := #[
    0x102b, 0x102d, 0x1038, 0x1039, 0x1062, 0x1065, 0x1067, 0x106e, 0x1083, 0x1084, 0x1087, 0x108d,
    0x108f, 0x1090, 0x109a, 0x109d, 0x1a61, 0x1a62, 0x1a63, 0x1a65, 0xaa7b, 0xaa7c, 0xaa7d, 0xaa7e,
    0x11720, 0x11722]

/-- Marks with width that stay with the character before them. -/
def spacingMark : CharSet :=
  ((Category.setOf [.mc]).diff (graphemeExtend.union freeMarks)).union
    ⟨#[0xe33, 0xe34, 0xeb3, 0xeb4]⟩

/-- Characters that stay with the one behind them. -/
def prepend : CharSet :=
  prependedConcatenationMark.union ⟨#[
    0xd4e, 0xd4f, 0x111c2, 0x111c4, 0x113d1, 0x113d2, 0x1193f, 0x11940, 0x11941, 0x11942, 0x11a3a,
    0x11a3b, 0x11a84, 0x11a8a, 0x11d46, 0x11d47, 0x11f02, 0x11f03]⟩

/-- Leading parts of Hangul syllables. -/
def leading : CharSet := ⟨#[0x1100, 0x1160, 0xa960, 0xa97d]⟩

/-- Vowels of Hangul syllables. -/
def vowel : CharSet := ⟨#[0x1160, 0x11a8, 0xd7b0, 0xd7c7, 0x16d63, 0x16d64, 0x16d67, 0x16d6b]⟩

/-- Trailing parts of Hangul syllables. -/
def trailing : CharSet := ⟨#[0x11a8, 0x1200, 0xd7cb, 0xd7fc]⟩

/-- Hangul syllables. Those of one leading part and one vowel follow each other, first the
one without a trailing part and then one for each of the 27 trailing parts. -/
def syllables : CharSet := ⟨#[0xac00, 0xd7a4]⟩

/-- Hangul syllables without a trailing part. -/
def openSyllable : CharSet :=
  .ofRanges ((List.range 399).map fun i => (0xac00 + 28 * i, 0xac00 + 28 * i + 1))

/-- Hangul syllables with a trailing part. -/
def closedSyllable : CharSet :=
  syllables.diff openSyllable

/-- The class of a name or a short name. -/
def named? : String → Option CharSet
  | "cn" | "control" => some control
  | "cr" => some carriageReturn
  | "ex" | "extend" => some extend
  | "l" => some leading
  | "lf" => some lineFeed
  | "lv" => some openSyllable
  | "lvt" => some closedSyllable
  | "pp" | "prepend" => some prepend
  | "ri" | "regionalindicator" => some regionalIndicator
  | "sm" | "spacingmark" => some spacingMark
  | "t" => some trailing
  | "v" => some vowel
  | "zwj" => some joiner
  | _ => none

end GraphemeBreak

/-! ## Words -/

namespace WordBreak

/-- Characters that extend the one before them. -/
def extend : CharSet :=
  (CharSet.unions [graphemeExtend, Category.setOf [.mc], emojiModifier]).diff joiner

/-- Format characters. -/
def format : CharSet :=
  (Category.setOf [.cf]).diff <|
    .unions [⟨#[0x200b, 0x200e]⟩, graphemeExtend, prependedConcatenationMark]

/-- Katakana, with the marks that are shared by both ways to write Japanese sounds. -/
def katakana : CharSet :=
  (scriptNamed "katakana").union
    ⟨#[0x3031, 0x3036, 0x309b, 0x309d, 0x30a0, 0x30a1, 0x30fc, 0x30fd, 0xff70, 0xff71]⟩

/-- Hebrew letters. -/
def hebrewLetter : CharSet :=
  (scriptNamed "hebrew").inter (Category.setOf [.lo])

/-- Characters that are no letters but go with them in words. -/
def letterLike : CharSet where
  bounds := #[
    0x2c2, 0x2c6, 0x2d2, 0x2d8, 0x2de, 0x2e0, 0x2e5, 0x2ec, 0x2ed, 0x2ee, 0x2ef, 0x300, 0x55a,
    0x55d, 0x55e, 0x55f, 0x58a, 0x58b, 0x5f3, 0x5f4, 0x70f, 0x710, 0xa708, 0xa717, 0xa720, 0xa722,
    0xa789, 0xa78b, 0xab5b, 0xab5c]

/-- Scripts whose words cannot be told apart letter by letter. -/
def scriptsWithoutWords : List String :=
  ["thai", "lao", "myanmar", "khmer", "taile", "newtailue", "taitham", "taiviet", "ahom",
    "hiragana"]

/-- Letters of words that are told apart letter by letter. -/
def letter : CharSet :=
  (alphabetic.diff (.unions (ideographic :: katakana :: extend :: hebrewLetter ::
    scriptsWithoutWords.map scriptNamed))).union letterLike

/-- Characters that join parts of numbers and words. -/
def extendNumLet : CharSet where
  bounds := #[
    0x5f, 0x60, 0x202f, 0x2030, 0x203f, 0x2041, 0x2054, 0x2055, 0xfe33, 0xfe35, 0xfe4d, 0xfe50,
    0xff3f, 0xff40]

/-- Punctuation inside words. -/
def midLetter : CharSet where
  bounds := #[
    0x3a, 0x3b, 0xb7, 0xb8, 0x387, 0x388, 0x55f, 0x560, 0x5f4, 0x5f5, 0x2027, 0x2028, 0xfe13,
    0xfe14, 0xfe55, 0xfe56, 0xff1a, 0xff1b]

/-- Punctuation inside numbers. -/
def midNum : CharSet where
  bounds := #[
    0x2c, 0x2d, 0x3b, 0x3c, 0x37e, 0x37f, 0x589, 0x58a, 0x60c, 0x60e, 0x66c, 0x66d, 0x7f8, 0x7f9,
    0x2044, 0x2045, 0xfe50, 0xfe51, 0xfe54, 0xfe55, 0xff0c, 0xff0d, 0xff1b, 0xff1c]

/-- Punctuation inside words and numbers. -/
def midNumLet : CharSet where
  bounds := #[
    0x2e, 0x2f, 0x2018, 0x201a, 0x2024, 0x2025, 0xfe52, 0xfe53, 0xff07, 0xff08, 0xff0e, 0xff0f]

/-- The single quote. -/
def singleQuote : CharSet := ⟨#[0x27, 0x28]⟩

/-- The double quote. -/
def doubleQuote : CharSet := ⟨#[0x22, 0x23]⟩

/-- Digits. -/
def numeric : CharSet :=
  (Category.setOf [.nd]).union ⟨#[
    0x600, 0x606, 0x66b, 0x66c, 0x6dd, 0x6de, 0x890, 0x892, 0x8e2, 0x8e3, 0x19da, 0x19db, 0x110bd,
    0x110be, 0x110cd, 0x110ce]⟩

/-- Ends of lines other than carriage returns and line feeds. -/
def newline : CharSet := ⟨#[0xb, 0xd, 0x85, 0x86, 0x2028, 0x202a]⟩

/-- Blanks that form one segment. -/
def segmentSpace : CharSet where
  bounds := #[
    0x20, 0x21, 0x1680, 0x1681, 0x2000, 0x2007, 0x2008, 0x200b, 0x205f, 0x2060, 0x3000, 0x3001]

/-- The class of a name or a short name. -/
def named? : String → Option CharSet
  | "le" | "aletter" => some letter
  | "cr" => some carriageReturn
  | "dq" | "doublequote" => some doubleQuote
  | "extend" => some extend
  | "ex" | "extendnumlet" => some extendNumLet
  | "fo" | "format" => some format
  | "hl" | "hebrewletter" => some hebrewLetter
  | "ka" | "katakana" => some katakana
  | "lf" => some lineFeed
  | "mb" | "midnumlet" => some midNumLet
  | "ml" | "midletter" => some midLetter
  | "mn" | "midnum" => some midNum
  | "nl" | "newline" => some newline
  | "nu" | "numeric" => some numeric
  | "ri" | "regionalindicator" => some regionalIndicator
  | "sq" | "singlequote" => some singleQuote
  | "wsegspace" => some segmentSpace
  | "zwj" => some joiner
  | _ => none

end WordBreak

/-! ## Sentences -/

namespace SentenceBreak

/-- Separators of paragraphs. -/
def separator : CharSet := ⟨#[0x85, 0x86, 0x2028, 0x202a]⟩

/-- Characters that extend the one before them. -/
def extend : CharSet :=
  .unions [graphemeExtend, Category.setOf [.mc], joiner]

/-- Format characters. -/
def format : CharSet :=
  ((Category.setOf [.cf]).diff <|
    .unions [joinControl, graphemeExtend, prependedConcatenationMark]).union ⟨#[0x70f, 0x710]⟩

/-- Blanks. -/
def space : CharSet :=
  whiteSpace.diff (.unions [separator, carriageReturn, lineFeed])

/-- Lower-case letters, apart from those of Georgian texts, which know no case. -/
def lower : CharSet :=
  lowercase.diff (graphemeExtend.union ⟨#[0x10d0, 0x10fb, 0x10fd, 0x1100]⟩)

/-- Upper-case and title-case letters, apart from those of Georgian texts. -/
def upper : CharSet :=
  (uppercase.union (Category.setOf [.lt])).diff ⟨#[0x1c90, 0x1cbb, 0x1cbd, 0x1cc0]⟩

/-- Letters without case. -/
def otherLetter : CharSet :=
  (alphabetic.union ⟨#[0x5f3, 0x5f4]⟩).diff (.unions [lower, upper, extend])

/-- Digits. -/
def numeric : CharSet :=
  WordBreak.numeric.union ⟨#[0x66c, 0x66d]⟩

/-- Full stops, which end a sentence or an abbreviation. -/
def fullStop : CharSet := ⟨#[0x2e, 0x2f, 0x2024, 0x2025, 0xfe52, 0xfe53, 0xff0e, 0xff0f]⟩

/-- Characters that end a sentence. -/
def terminal : CharSet :=
  sentenceTerminal.diff fullStop

/-- Characters after which a sentence goes on. -/
def continuing : CharSet where
  bounds := #[
    0x2c, 0x2e, 0x3a, 0x3c, 0x37e, 0x37f, 0x55d, 0x55e, 0x60c, 0x60e, 0x7f8, 0x7f9, 0x1802, 0x1803,
    0x1808, 0x1809, 0x2013, 0x2015, 0x3001, 0x3002, 0xfe10, 0xfe12, 0xfe13, 0xfe15, 0xfe31, 0xfe33,
    0xfe50, 0xfe52, 0xfe54, 0xfe56, 0xfe58, 0xfe59, 0xfe63, 0xfe64, 0xff0c, 0xff0e, 0xff1a, 0xff1c,
    0xff64, 0xff65]

/-- Brackets and quotation marks that may follow the end of a sentence. -/
def close : CharSet :=
  ((CharSet.unions [Category.setOf [.ps, .pe, .pi, .pf], quotationMark]).diff
    (.unions [fullStop, terminal, ⟨#[0xff02, 0xff03, 0xff07, 0xff08]⟩])).union
      ⟨#[0x275b, 0x2761, 0x2e00, 0x2e02, 0x2e06, 0x2e09, 0x2e0b, 0x2e0c, 0x1f676, 0x1f679]⟩

/-- The class of a name or a short name. -/
def named? : String → Option CharSet
  | "at" | "aterm" => some fullStop
  | "cl" | "close" => some close
  | "cr" => some carriageReturn
  | "ex" | "extend" => some extend
  | "fo" | "format" => some format
  | "le" | "oletter" => some otherLetter
  | "lf" => some lineFeed
  | "lo" | "lower" => some lower
  | "nu" | "numeric" => some numeric
  | "sc" | "scontinue" => some continuing
  | "se" | "sep" => some separator
  | "sp" => some space
  | "st" | "sterm" => some terminal
  | "up" | "upper" => some upper
  | _ => none

end SentenceBreak

end Graft.CharProperty
