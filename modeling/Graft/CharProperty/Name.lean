import Graft.CharProperty.Age
import Graft.CharProperty.Case
import Graft.CharProperty.ScriptExtension

/-!
The names of character properties.

Names are compared in small letters, without separators and without a leading `is`. A name
that stands alone means a property with a truth value, a general category or a script, in
this order; no name means more than one of them. Other properties are given by their name
and a value.
-/

set_option autoImplicit false

namespace Graft.CharProperty

/-- A name in the form in which names are compared. What is not ASCII is dropped. -/
def normalName (name : String) : String :=
  let cs := name.toList
  let (prefixed, rest) := match cs with
    | i :: s :: rest => if i.toLower = 'i' && s.toLower = 's' then (true, rest) else (false, cs)
    | _ => (false, cs)
  let kept := (rest.filter fun c => c.toNat < 128 && !" _-".toList.contains c).map Char.toLower
  if prefixed && kept = ['c'] then "isc" else String.ofList kept

/-- The characters of a property with a truth value, by a name or a short name. -/
def ofTruth? : String → Option CharSet
  | "ahex" | "asciihexdigit" => some asciiHexDigit
  | "alpha" | "alphabetic" => some alphabetic
  | "bidic" | "bidicontrol" => some bidiControl
  | "bidim" | "bidimirrored" => some bidiMirrored
  | "cased" => some cased
  | "ci" | "caseignorable" => some caseIgnorable
  | "cwcf" | "changeswhencasefolded" => some changesWhenCasefolded
  | "cwcm" | "changeswhencasemapped" => some changesWhenCasemapped
  | "cwl" | "changeswhenlowercased" => some changesWhenLowercased
  | "cwt" | "changeswhentitlecased" => some changesWhenTitlecased
  | "cwu" | "changeswhenuppercased" => some changesWhenUppercased
  | "dash" => some dash
  | "di" | "defaultignorablecodepoint" => some defaultIgnorable
  | "dep" | "deprecated" => some deprecated
  | "dia" | "diacritic" => some diacritic
  | "ebase" | "emojimodifierbase" => some emojiModifierBase
  | "ecomp" | "emojicomponent" => some emojiComponent
  | "emod" | "emojimodifier" => some emojiModifier
  | "emoji" => some emoji
  | "epres" | "emojipresentation" => some emojiPresentation
  | "ext" | "extender" => some extender
  | "extpict" | "extendedpictographic" => some extendedPictographic
  | "grbase" | "graphemebase" => some graphemeBase
  | "grext" | "graphemeextend" => some graphemeExtend
  | "grlink" | "graphemelink" => some graphemeLink
  | "hex" | "hexdigit" => some hexDigit
  | "hyphen" => some hyphen
  | "idc" | "idcontinue" => some idContinue
  | "idcompatmathcontinue" => some idCompatMathContinue
  | "idcompatmathstart" => some idCompatMathStart
  | "ideo" | "ideographic" => some ideographic
  | "ids" | "idstart" => some idStart
  | "idsb" | "idsbinaryoperator" => some idsBinaryOperator
  | "idst" | "idstrinaryoperator" => some idsTrinaryOperator
  | "idsu" | "idsunaryoperator" => some idsUnaryOperator
  | "joinc" | "joincontrol" => some joinControl
  | "loe" | "logicalorderexception" => some logicalOrderException
  | "lower" | "lowercase" => some lowercase
  | "math" => some math
  | "mcm" | "modifiercombiningmark" => some modifierCombiningMark
  | "nchar" | "noncharactercodepoint" => some noncharacter
  | "oalpha" | "otheralphabetic" => some otherAlphabetic
  | "odi" | "otherdefaultignorablecodepoint" => some otherDefaultIgnorable
  | "ogrext" | "othergraphemeextend" => some otherGraphemeExtend
  | "oidc" | "otheridcontinue" => some otherIdContinue
  | "oids" | "otheridstart" => some otherIdStart
  | "olower" | "otherlowercase" => some otherLowercase
  | "omath" | "othermath" => some otherMath
  | "oupper" | "otheruppercase" => some otherUppercase
  | "patsyn" | "patternsyntax" => some patternSyntax
  | "patws" | "patternwhitespace" => some patternWhiteSpace
  | "pcm" | "prependedconcatenationmark" => some prependedConcatenationMark
  | "qmark" | "quotationmark" => some quotationMark
  | "radical" => some radical
  | "ri" | "regionalindicator" => some regionalIndicator
  | "sd" | "softdotted" => some softDotted
  | "sterm" | "sentenceterminal" => some sentenceTerminal
  | "space" | "wspace" | "whitespace" => some whiteSpace
  | "term" | "terminalpunctuation" => some terminalPunctuation
  | "uideo" | "unifiedideograph" => some unifiedIdeograph
  | "upper" | "uppercase" => some uppercase
  | "vs" | "variationselector" => some variationSelector
  | "xidc" | "xidcontinue" => some xidContinue
  | "xids" | "xidstart" => some xidStart
  | _ => none

/-- The categories of letters, of cased letters and so on, by the names of the whole. -/
def categories? : String → Option (List Category)
  | "lu" | "uppercaseletter" => some [.lu]
  | "ll" | "lowercaseletter" => some [.ll]
  | "lt" | "titlecaseletter" => some [.lt]
  | "lc" | "casedletter" => some [.lu, .ll, .lt]
  | "lm" | "modifierletter" => some [.lm]
  | "lo" | "otherletter" => some [.lo]
  | "l" | "letter" => some [.lu, .ll, .lt, .lm, .lo]
  | "mn" | "nonspacingmark" => some [.mn]
  | "mc" | "spacingmark" => some [.mc]
  | "me" | "enclosingmark" => some [.me]
  | "m" | "mark" | "combiningmark" => some [.mn, .mc, .me]
  | "nd" | "decimalnumber" | "digit" => some [.nd]
  | "nl" | "letternumber" => some [.nl]
  | "no" | "othernumber" => some [.no]
  | "n" | "number" => some [.nd, .nl, .no]
  | "pc" | "connectorpunctuation" => some [.pc]
  | "pd" | "dashpunctuation" => some [.pd]
  | "ps" | "openpunctuation" => some [.ps]
  | "pe" | "closepunctuation" => some [.pe]
  | "pi" | "initialpunctuation" => some [.pi]
  | "pf" | "finalpunctuation" => some [.pf]
  | "po" | "otherpunctuation" => some [.po]
  | "p" | "punctuation" | "punct" => some [.pc, .pd, .ps, .pe, .pi, .pf, .po]
  | "sm" | "mathsymbol" => some [.sm]
  | "sc" | "currencysymbol" => some [.sc]
  | "sk" | "modifiersymbol" => some [.sk]
  | "so" | "othersymbol" => some [.so]
  | "s" | "symbol" => some [.sm, .sc, .sk, .so]
  | "zs" | "spaceseparator" => some [.zs]
  | "zl" | "lineseparator" => some [.zl]
  | "zp" | "paragraphseparator" => some [.zp]
  | "z" | "separator" => some [.zs, .zl, .zp]
  | "cc" | "control" | "cntrl" => some [.cc]
  | "cf" | "format" => some [.cf]
  | "co" | "privateuse" => some [.co]
  | "cn" | "unassigned" => some [.cn]
  | "c" | "other" => some [.cc, .cf, .co, .cn]
  | _ => none

/-- The characters of a general category, or all, assigned or ASCII characters. -/
def ofCategory? (name : String) : Option CharSet :=
  match name with
  | "any" => some .all
  | "assigned" => some assigned
  | "ascii" => some .ascii
  | name => (categories? name).map Category.setOf

/-- The characters that a name means where it stands alone. -/
def ofName? (name : String) : Option CharSet :=
  let name := normalName name
  (ofTruth? name).or ((ofCategory? name).or ((Script.named? name).map Script.set))

/-- The characters for which a property has a value. -/
def ofValue? (name value : String) : Option CharSet :=
  let value := normalName value
  match normalName name with
  | "gc" | "generalcategory" => ofCategory? value
  | "sc" | "script" => (Script.named? value).map Script.set
  | "scx" | "scriptextensions" => (Script.named? value).map Script.extendedSet
  | "age" => (Age.named? value).map Age.set
  | "gcb" | "graphemeclusterbreak" => GraphemeBreak.named? value
  | "wb" | "wordbreak" => WordBreak.named? value
  | "sb" | "sentencebreak" => SentenceBreak.named? value
  | _ => none

end Graft.CharProperty
