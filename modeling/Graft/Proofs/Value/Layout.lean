import Graft.Proofs.Value.Unambiguous

/-!
What is layout in a literal, and how the pretty form is laid out.

A literal is read along its characters. Quotes begin and end a quoted text, in which a backslash
takes the next character along, and outside quoted texts brackets are opened and closed. Spaces and
line breaks are layout there. Without it the two forms of a literal are the same text, and in the
pretty form every line is indented by the brackets that are open where it begins.

Both are shown part by part. Read from outside quoted texts, the literal of a value leads back
there and leaves open what was open before, so that the parts between two brackets do not depend on
each other, and all of them stand at one depth.
-/

set_option autoImplicit false

namespace Graft

/-! ## Reading along a literal -/

/-- Where a character of a literal stands. -/
inductive Region where
  /-- Outside quoted texts. -/
  | bare
  /-- In a quoted text. -/
  | quoted
  /-- In a quoted text, behind a backslash. -/
  | escaped
  deriving DecidableEq

/-- Where the next character stands. -/
def Region.next : Region → Char → Region
  | bare, c => if c = '"' then quoted else bare
  | quoted, c => if c = '\\' then escaped else if c = '"' then bare else quoted
  | escaped, _ => quoted

/-- Where the character behind a text stands. -/
def Region.after (r : Region) (text : List Char) : Region :=
  text.foldl next r

/-- The brackets that are open behind a character outside quoted texts, the innermost first. A
closing bracket closes one of its own kind. -/
def bracketsBehind (brackets : List Char) (c : Char) : List Char :=
  if c = '[' ∨ c = '{' then c :: brackets
  else if c = ']' ∧ brackets.head? = some '[' ∨ c = '}' ∧ brackets.head? = some '{' then
    brackets.tail
  else brackets

/-- A place in a literal: its region, and the brackets that are open there. -/
structure Place where
  region : Region
  brackets : List Char

namespace Place

/-- The place behind a character. -/
def next (p : Place) (c : Char) : Place where
  region := p.region.next c
  brackets := if p.region = .bare then bracketsBehind p.brackets c else p.brackets

/-- The place behind a text. -/
def after (p : Place) (text : List Char) : Place :=
  text.foldl next p

/-- Where a literal begins. -/
def start : Place := ⟨.bare, []⟩

end Place

/-! ## Layout -/

/-- A line break. -/
def isBreak (c : Char) : Bool :=
  c = '\n' || c = '\r'

/-- A text without the spaces and line breaks outside quoted texts, read from a region on. -/
def squeeze : Region → List Char → List Char
  | _, [] => []
  | r, c :: rest =>
    if r = .bare ∧ (c = ' ' ∨ isBreak c = true) then squeeze (r.next c) rest
    else c :: squeeze (r.next c) rest

/-- The brackets that are open at the beginning of a line whose first character behind the
indentation is `c`. A closing bracket there counts as closed. -/
def Place.depth (p : Place) (c : Char) : Nat :=
  if c = ']' ∨ c = '}' then (p.next c).brackets.length else p.brackets.length

/-- What follows a line break is indented: there are exactly two spaces for each bracket that is
open, and then something else. -/
def Place.Indents (p : Place) (line : List Char) : Prop :=
  ∃ c rest, c ≠ ' ' ∧ line = List.replicate (2 * p.depth c) ' ' ++ c :: rest

/-- Every line break of a text that is outside quoted texts is followed by an indentation. -/
def Indented (p : Place) (text : List Char) : Prop :=
  ∀ before b line, text = before ++ b :: line → isBreak b = true →
    (p.after before).region = .bare → (p.after before).Indents line

/-- What has been checked for the members of a list one by one. -/
theorem forall_of_all {α : Type} {P : α → Prop} [DecidablePred P] {l : List α}
    (h : (l.all fun a => P a) = true) : ∀ a ∈ l, P a := by
  simpa using h

/-! ## Texts in a row -/

/-- Squeezing goes on in the region that it has come to. -/
theorem squeeze_append (r : Region) (a b : List Char) :
    squeeze r (a ++ b) = squeeze r a ++ squeeze (r.after a) b := by
  induction a generalizing r with
  | nil => rfl
  | cons c a ih =>
    rw [List.cons_append, squeeze, squeeze, ih]
    split
    · rfl
    · rfl

theorem Place.after_append (p : Place) (a b : List Char) :
    p.after (a ++ b) = (p.after a).after b :=
  List.foldl_append

theorem Place.region_after (p : Place) (text : List Char) :
    (p.after text).region = p.region.after text := by
  induction text generalizing p with
  | nil => rfl
  | cons c text ih => exact ih (p.next c)

theorem Place.Indents.append {p : Place} {line : List Char} (h : p.Indents line)
    (more : List Char) : p.Indents (line ++ more) := by
  obtain ⟨c, rest, hc, rfl⟩ := h
  exact ⟨c, rest ++ more, hc, by rw [List.append_assoc, List.cons_append]⟩

namespace Indented

variable {p : Place} {a b : List Char}

theorem of_unbroken (h : ∀ c ∈ a, isBreak c = false) : Indented p a := by
  intro before c line ha hc
  have hmem : c ∈ a := by rw [ha]; simp
  rw [h c hmem] at hc
  cases hc

theorem cons {c : Char} (hc : isBreak c = true → p.region = .bare → p.Indents a)
    (ha : Indented (p.next c) a) : Indented p (c :: a) := by
  intro before d line htext hd hregion
  cases before with
  | nil =>
    obtain ⟨rfl, rfl⟩ := List.cons.inj htext
    exact hc hd hregion
  | cons e before =>
    obtain ⟨rfl, hrest⟩ := List.cons.inj htext
    exact ha before d line hrest hd hregion

/-- A text is indented if its parts are, the second at the place behind the first. -/
theorem append (ha : Indented p a) (hb : Indented (p.after a) b) : Indented p (a ++ b) := by
  intro before c line htext hc hregion
  rcases List.append_eq_append_iff.mp htext with ⟨more, rfl, hrest⟩ | ⟨more, rfl, hrest⟩
  · -- The line break is in the second text.
    rw [Place.after_append] at hregion ⊢
    exact hb more c line hrest hc hregion
  · cases more with
    | nil =>
      rw [List.append_nil] at hb
      exact hb [] c line hrest.symm hc hregion
    | cons d more =>
      obtain ⟨rfl, rfl⟩ := List.cons.inj hrest
      exact (ha before c more rfl hc hregion).append b

end Indented

/-- Read from outside quoted texts, a text leads back there and leaves open what was open. -/
def Balanced (text : List Char) : Prop :=
  ∀ brackets, Place.after ⟨.bare, brackets⟩ text = ⟨.bare, brackets⟩

namespace Balanced

variable {a b : List Char}

theorem append (ha : Balanced a) (hb : Balanced b) : Balanced (a ++ b) := by
  intro brackets
  rw [Place.after_append, ha, hb]

theorem region (h : Balanced a) : Region.bare.after a = .bare := by
  rw [← Place.region_after ⟨.bare, []⟩, h]

theorem squeeze_append (ha : Balanced a) (b : List Char) :
    squeeze .bare (a ++ b) = squeeze .bare a ++ squeeze .bare b := by
  rw [Graft.squeeze_append, ha.region]

/-- A line, or none, for each of several parts. -/
theorem flatMap {α : Type} {f : α → List Char} {parts : List α}
    (h : ∀ part ∈ parts, Balanced (f part)) : Balanced (parts.flatMap f) := by
  induction parts with
  | nil => exact fun _ => rfl
  | cons part parts ih =>
    rw [List.flatMap_cons]
    exact (h part List.mem_cons_self).append (ih fun p hp => h p (List.mem_cons_of_mem part hp))

/-- Balanced parts are squeezed one by one. -/
theorem squeeze_flatMap {α : Type} {f : α → List Char} {parts : List α}
    (h : ∀ part ∈ parts, Balanced (f part)) :
    squeeze .bare (parts.flatMap f) = parts.flatMap fun part => squeeze .bare (f part) := by
  induction parts with
  | nil => rfl
  | cons part parts ih =>
    rw [List.flatMap_cons, List.flatMap_cons, (h part List.mem_cons_self).squeeze_append,
      ih fun p hp => h p (List.mem_cons_of_mem part hp)]

theorem indented_flatMap {α : Type} {f : α → List Char} {parts : List α} {brackets : List Char}
    (h : ∀ part ∈ parts, Balanced (f part) ∧ Indented ⟨.bare, brackets⟩ (f part)) :
    Indented ⟨.bare, brackets⟩ (parts.flatMap f) := by
  induction parts with
  | nil => exact .of_unbroken nofun
  | cons part parts ih =>
    obtain ⟨hbalanced, hindented⟩ := h part List.mem_cons_self
    rw [List.flatMap_cons]
    refine hindented.append ?_
    rw [hbalanced]
    exact ih fun p hp => h p (List.mem_cons_of_mem part hp)

end Balanced

/-! ## Brackets -/

/-- A pair of brackets. -/
def Encloses (o c : Char) : Prop :=
  o = '[' ∧ c = ']' ∨ o = '{' ∧ c = '}'

namespace Encloses

variable {o c : Char}

/-- An opening bracket is put on the brackets that are open, outside of strings. -/
theorem next_opening (h : Encloses o c) (brackets : List Char) :
    Place.next ⟨.bare, brackets⟩ o = ⟨.bare, o :: brackets⟩ := by
  rcases h with ⟨rfl, rfl⟩ | ⟨rfl, rfl⟩ <;> rfl

/-- The closing one takes it off. -/
theorem next_closing (h : Encloses o c) (brackets : List Char) :
    Place.next ⟨.bare, o :: brackets⟩ c = ⟨.bare, brackets⟩ := by
  rcases h with ⟨rfl, rfl⟩ | ⟨rfl, rfl⟩ <;> rfl

/-- A closing bracket at the beginning of a line counts as closed. -/
theorem depth_closing (h : Encloses o c) (brackets : List Char) :
    Place.depth ⟨.bare, o :: brackets⟩ c = brackets.length := by
  have hclosing : c = ']' ∨ c = '}' := h.imp And.right And.right
  rw [Place.depth, if_pos hclosing, h.next_closing]

theorem squeeze_opening (h : Encloses o c) (text : List Char) :
    squeeze .bare (o :: text) = o :: squeeze .bare text := by
  rcases h with ⟨rfl, rfl⟩ | ⟨rfl, rfl⟩ <;> rfl

theorem squeeze_closing (h : Encloses o c) : squeeze .bare [c] = [c] := by
  rcases h with ⟨rfl, rfl⟩ | ⟨rfl, rfl⟩ <;> rfl

theorem not_blank (h : Encloses o c) : ∀ d ∈ [o, c], d ≠ ' ' ∧ isBreak d = false := by
  rcases h with ⟨rfl, rfl⟩ | ⟨rfl, rfl⟩ <;> exact forall_of_all (by decide)

theorem begins (h : Encloses o c) : o ∉ [' ', ']', '}'] := by
  rcases h with ⟨rfl, rfl⟩ | ⟨rfl, rfl⟩ <;> decide

/-- A text in brackets. -/
theorem balanced (h : Encloses o c) {text : List Char} (htext : Balanced text) :
    Balanced (o :: (text ++ [c])) := by
  intro brackets
  calc Place.after ⟨.bare, brackets⟩ (o :: (text ++ [c]))
      = (Place.next ⟨.bare, brackets⟩ o).after (text ++ [c]) := rfl
    _ = (Place.after ⟨.bare, o :: brackets⟩ text).next c := by
        rw [h.next_opening, Place.after_append]
        rfl
    _ = ⟨.bare, brackets⟩ := by rw [htext, h.next_closing]

end Encloses

/-! ## Words, keys and quoted texts -/

/-- The characters that quote, open and close. -/
def delimiters : List Char := ['"', '[', ']', '{', '}']

theorem Place.next_of_not_delimiter {brackets : List Char} {c : Char} (h : c ∉ delimiters) :
    next ⟨.bare, brackets⟩ c = ⟨.bare, brackets⟩ := by
  simp only [delimiters, List.mem_cons, List.not_mem_nil, or_false, not_or] at h
  simp [next, Region.next, bracketsBehind, h]

/-- A text without quotation marks and brackets is balanced. -/
theorem Balanced.of_not_delimiter {text : List Char} (h : ∀ c ∈ text, c ∉ delimiters) :
    Balanced text := by
  intro brackets
  induction text with
  | nil => rfl
  | cons c text ih =>
    rw [Place.after, List.foldl_cons, Place.next_of_not_delimiter (h c List.mem_cons_self)]
    exact ih fun d hd => h d (List.mem_cons_of_mem c hd)

/-- A text with what is needed of the smallest parts of a literal: it is balanced, has no line break
and begins with neither a space nor a closing bracket. -/
structure IsToken (text : List Char) : Prop where
  balanced : Balanced text
  unbroken : ∀ c ∈ text, isBreak c = false
  begins : ∃ c rest, text = c :: rest ∧ c ∉ [' ', ']', '}']

/-- A text without delimiters and layout. -/
theorem isToken_of_plain {text : List Char} (hne : text ≠ [])
    (h : ∀ c ∈ text, c ∉ delimiters ++ [' ', '\n', '\r']) : IsToken text where
  balanced := .of_not_delimiter fun c hc hmem => h c hc (List.mem_append_left _ hmem)
  unbroken c hc := by
    have hplain := h c hc
    simp only [delimiters, List.mem_append, List.mem_cons, not_or] at hplain
    simp [isBreak, hplain]
  begins := by
    obtain ⟨c, rest, rfl⟩ := List.exists_cons_of_ne_nil hne
    refine ⟨c, rest, rfl, fun hc => h c List.mem_cons_self ?_⟩
    simp only [delimiters, List.mem_append, List.mem_cons, List.not_mem_nil, or_false] at hc ⊢
    tauto

/-- The words that stand for values without parts. -/
theorem isToken_word {word : String}
    (h : word ∈ ["null", "@delete", "true", "false", "NaN", "-inf", "inf"]) :
    IsToken word.toList := by
  have hwords : ∀ word ∈ ["null", "@delete", "true", "false", "NaN", "-inf", "inf"],
      word.toList ≠ [] ∧
        word.toList.all (fun c => c ∉ delimiters ++ [' ', '\n', '\r']) = true := by decide
  exact isToken_of_plain (hwords word h).1 (forall_of_all (hwords word h).2)

/-! ### Quoted texts -/

theorem Place.after_of_quoted {brackets text : List Char} (h : ∀ c ∈ text, c ≠ '\\' ∧ c ≠ '"') :
    after ⟨.quoted, brackets⟩ text = ⟨.quoted, brackets⟩ := by
  induction text with
  | nil => rfl
  | cons c text ih =>
    obtain ⟨hbackslash, hquote⟩ := h c List.mem_cons_self
    have hnext : next ⟨.quoted, brackets⟩ c = ⟨.quoted, brackets⟩ := by
      simp [next, Region.next, hbackslash, hquote]
    rw [after, List.foldl_cons, hnext]
    exact ih fun d hd => h d (List.mem_cons_of_mem c hd)

/-- An escape ends within the quoted text. -/
theorem Place.after_encodeChar (brackets : List Char) (c : Char) :
    after ⟨.quoted, brackets⟩ (Text.encodeChar c) = ⟨.quoted, brackets⟩ := by
  unfold Text.encodeChar
  split_ifs with hquote hbackslash hline hreturn htab hcontrol
  · rfl
  · rfl
  · rfl
  · rfl
  · rfl
  · have hdigits : ∀ d < 16, Nat.digitChar d ≠ '\\' ∧ Nat.digitChar d ≠ '"' := by decide
    have hplain : ∀ d ∈ '{' :: (Numeral.padded 16 4 c.toNat ++ ['}']), d ≠ '\\' ∧ d ≠ '"' := by
      intro d hd
      rw [List.mem_cons, List.mem_append, List.mem_singleton] at hd
      rcases hd with rfl | hd | rfl
      · decide
      · obtain ⟨value, hvalue, rfl⟩ := Numeral.mem_padded (by decide) hd
        exact hdigits value hvalue
      · decide
    -- The backslash takes the letter along, and the digits in braces stand for themselves.
    have hletter : after ⟨.quoted, brackets⟩
        (['\\', 'u', '{'] ++ Numeral.padded 16 4 c.toNat ++ ['}']) =
        after ⟨.quoted, brackets⟩ ('{' :: (Numeral.padded 16 4 c.toNat ++ ['}'])) := by
      rw [List.append_assoc]
      rfl
    rw [hletter, after_of_quoted hplain]
  · exact after_of_quoted fun d hd => by
      rw [List.mem_singleton.mp hd]
      exact ⟨hbackslash, hquote⟩

/-- In a string that is printed, line breaks are escaped. -/
theorem isBreak_of_mem_encodeChar {c d : Char} (h : d ∈ Text.encodeChar c) :
    isBreak d = false := by
  unfold Text.encodeChar at h
  split_ifs at h with hquote hbackslash hline hreturn htab hcontrol
  all_goals simp only [List.mem_append, List.mem_cons, List.not_mem_nil, or_false] at h
  · rcases h with rfl | rfl <;> rfl
  · rcases h with rfl | rfl <;> rfl
  · rcases h with rfl | rfl <;> rfl
  · rcases h with rfl | rfl <;> rfl
  · rcases h with rfl | rfl <;> rfl
  · have hdigits : ∀ d < 16, isBreak (Nat.digitChar d) = false := by decide
    rcases h with ((rfl | rfl | rfl) | h) | rfl
    · rfl
    · rfl
    · rfl
    · obtain ⟨value, hvalue, rfl⟩ := Numeral.mem_padded (by decide) h
      exact hdigits value hvalue
    · rfl
  · rw [h]
    simp [isBreak, hline, hreturn]

/-- A printed string is a token: its quotation marks inside are escaped. -/
theorem isToken_quote (s : String) : IsToken (Text.quote s).toList := by
  have hinner : ∀ (cs brackets : List Char),
      Place.after ⟨.quoted, brackets⟩ (cs.flatMap Text.encodeChar) = ⟨.quoted, brackets⟩ := by
    intro cs brackets
    induction cs with
    | nil => rfl
    | cons c cs ih => rw [List.flatMap_cons, Place.after_append, Place.after_encodeChar, ih]
  rw [Text.toList_quote]
  constructor
  case balanced =>
    intro brackets
    have hopened : Place.next ⟨.bare, brackets⟩ '"' = ⟨.quoted, brackets⟩ := rfl
    rw [Place.after, List.foldl_cons, hopened]
    exact (Place.after_append _ _ _).trans (by rw [hinner]; rfl)
  case unbroken =>
    intro c hc
    rw [List.mem_cons, List.mem_append, List.mem_singleton, List.mem_flatMap] at hc
    rcases hc with rfl | ⟨d, -, hc⟩ | rfl
    · rfl
    · exact isBreak_of_mem_encodeChar hc
    · rfl
  case begins => exact ⟨_, _, rfl, by decide⟩

/-! ### Words -/

/-- So is a key, quoted or not. -/
theorem isToken_literalKey (key : String) : IsToken (literalKey key).toList := by
  rw [literalKey]
  split
  next hkey =>
    refine isToken_of_plain ?_ fun c hc hmem => ?_
    · intro hnil
      rw [hnil] at hkey
      cases hkey
    · have hnot : ∀ d ∈ delimiters ++ [' ', '\n', '\r'],
          (Text.isLetter d || Text.isNumeral d || d = '_') = false := forall_of_all (by decide)
      exact not_mem_of_isBareKey hkey (hnot c hmem) hc
  next => exact isToken_quote key

theorem isToken_signedDecimal (n : Int) : IsToken (Numeral.signedDecimal n).toList := by
  have hdigits : ∀ d < 10, Nat.digitChar d ∉ delimiters ++ [' ', '\n', '\r'] := by decide
  refine isToken_of_plain ?_ fun c hc => ?_
  · obtain ⟨d, -, rest, hcons⟩ := Numeral.decimal_cons n.natAbs
    rw [Numeral.toList_signedDecimal, hcons]
    simp
  · rcases Numeral.mem_signedDecimal hc with rfl | ⟨d, hd, rfl⟩
    · decide
    · exact hdigits d hd

/-- The characters that doubles are written with. -/
def floatCharacters : List Char := "0123456789.-+eNainf".toList

theorem mem_floatCharacters_of_mem_padded {width n : Nat} {c : Char}
    (h : c ∈ Numeral.padded 10 width n) : c ∈ floatCharacters := by
  have hdigits : ∀ d < 10, Nat.digitChar d ∈ floatCharacters := by decide
  obtain ⟨d, hd, rfl⟩ := Numeral.mem_padded (by decide) h
  exact hdigits d hd

namespace FloatFormat

theorem mem_positionalText {keepsFraction : Bool} {digits : List Char} {point : Int} {c : Char}
    (h : c ∈ positionalText keepsFraction digits point) : c ∈ digits ∨ c = '0' ∨ c = '.' := by
  unfold positionalText at h
  split_ifs at h <;>
    simp only [List.mem_append, List.mem_cons, List.mem_replicate, List.not_mem_nil, or_false] at h
  · tauto
  · tauto
  · tauto
  · rcases h with (h | h) | h
    · exact .inl (List.mem_of_mem_take h)
    · exact .inr (.inr h)
    · exact .inl (List.mem_of_mem_drop h)

theorem positionalText_ne_nil {keepsFraction : Bool} {digits : List Char} {point : Int}
    (h : digits ≠ []) : positionalText keepsFraction digits point ≠ [] := by
  unfold positionalText
  split_ifs
  · exact List.cons_ne_nil _ _
  · simp [h]
  · simp [h]
  · simp

/-- A literal shows a double in positional notation. -/
theorem magnitudeText_literal (mantissa : Nat) (exponent : Int) :
    literal.magnitudeText mantissa exponent = ['0', '.', '0'] ∨
      ∃ n point, literal.magnitudeText mantissa exponent =
        positionalText true (Numeral.padded 10 1 n) point := by
  unfold magnitudeText
  by_cases hzero : (literal.decimal mantissa exponent).significand = 0
  · exact .inl (if_pos hzero)
  · exact .inr ⟨_, _, if_neg hzero⟩

theorem magnitudeText_ne_nil (mantissa : Nat) (exponent : Int) :
    literal.magnitudeText mantissa exponent ≠ [] := by
  rcases magnitudeText_literal mantissa exponent with h | ⟨n, point, h⟩
  · rw [h]
    exact List.cons_ne_nil _ _
  · rw [h]
    refine positionalText_ne_nil fun hnil => ?_
    obtain ⟨d, -, rest, hcons⟩ := Numeral.decimal_cons n
    rw [Numeral.decimal, String.toList_ofList, hnil] at hcons
    cases hcons

theorem mem_magnitudeText {mantissa : Nat} {exponent : Int} {c : Char}
    (h : c ∈ literal.magnitudeText mantissa exponent) : c ∈ floatCharacters := by
  have hzeros : ∀ c ∈ ['0', '.', '0'], c ∈ floatCharacters := forall_of_all (by decide)
  rcases magnitudeText_literal mantissa exponent with he | ⟨n, point, he⟩
  · rw [he] at h
    exact hzeros c h
  · rw [he] at h
    rcases mem_positionalText h with h | rfl | rfl
    · exact mem_floatCharacters_of_mem_padded h
    · decide
    · decide

/-- So is a float: none of the characters that floats are written with is a delimiter. -/
theorem isToken_text (x : Float) : IsToken (literal.text x).toList := by
  have hplain : ∀ c ∈ floatCharacters, c ∉ delimiters ++ [' ', '\n', '\r'] :=
    forall_of_all (by decide)
  unfold text
  split
  · rename_i p _
    rw [String.toList_ofList]
    refine isToken_of_plain ?_ fun c hc => hplain c ?_
    · exact fun hnil => magnitudeText_ne_nil _ _ (List.append_eq_nil_iff.mp hnil).2
    · rcases List.mem_append.mp hc with hc | hc
      · split at hc
        · rw [List.mem_singleton.mp hc]
          decide
        · cases hc
      · exact mem_magnitudeText hc
  · split
    · exact isToken_word (by decide)
    · split
      · exact isToken_word (by decide)
      · exact isToken_word (by decide)

end FloatFormat

/-! ## Parts between brackets -/

/-- A text that is laid out at a depth: it is balanced, begins with neither a space nor a closing
bracket, and is indented wherever so many brackets are open. -/
structure LaidOut (level : Nat) (text : List Char) : Prop where
  balanced : Balanced text
  begins : ∃ c rest, text = c :: rest ∧ c ∉ [' ', ']', '}']
  indented : ∀ brackets, brackets.length = level → Indented ⟨.bare, brackets⟩ text

theorem IsToken.laidOut {text : List Char} (h : IsToken text) (level : Nat) :
    LaidOut level text where
  balanced := h.balanced
  begins := h.begins
  indented _ _ := .of_unbroken h.unbroken

namespace Value

/-- The line break before a part. -/
theorem toList_lineBreak (level : Nat) :
    (lineBreak true level).toList = '\n' :: List.replicate (2 * level) ' ' := by
  simp [lineBreak]

/-- Between items there are blanks only, which open and close nothing. -/
theorem balanced_lineBreak (pretty : Bool) (level : Nat) :
    Balanced (lineBreak pretty level).toList := by
  cases pretty with
  | false => exact .of_not_delimiter nofun
  | true =>
    rw [toList_lineBreak]
    refine .of_not_delimiter fun c hc => ?_
    rcases List.mem_cons.mp hc with rfl | hc
    · decide
    · rw [(List.mem_replicate.mp hc).2]
      decide

theorem squeeze_lineBreak (pretty : Bool) (level : Nat) :
    squeeze .bare (lineBreak pretty level).toList = [] := by
  have hspaces : ∀ k, squeeze .bare (List.replicate k ' ') = [] := by
    intro k
    induction k with
    | zero => rfl
    | succ k ih => exact ih
  cases pretty with
  | false => rfl
  | true =>
    rw [toList_lineBreak]
    exact hspaces (2 * level)

/-- A part on a line of its own. -/
theorem indented_line {brackets : List Char} {level : Nat} {c : Char} {rest : List Char}
    (hc : c ≠ ' ') (hdepth : Place.depth ⟨.bare, brackets⟩ c = level)
    (h : Indented ⟨.bare, brackets⟩ (c :: rest)) :
    Indented ⟨.bare, brackets⟩ ((lineBreak true level).toList ++ c :: rest) := by
  have hspace : ∀ d ∈ List.replicate (2 * level) ' ', d = ' ' := fun d hd =>
    (List.mem_replicate.mp hd).2
  have hbalanced : Balanced (List.replicate (2 * level) ' ') :=
    .of_not_delimiter fun d hd => by rw [hspace d hd]; decide
  rw [toList_lineBreak, List.cons_append]
  refine .cons (fun _ _ => ⟨c, rest, hc, by rw [hdepth]⟩) ?_
  refine .append (.of_unbroken fun d hd => by rw [hspace d hd]; rfl) ?_
  rw [Place.next_of_not_delimiter (by decide), hbalanced]
  exact h

/-- What stands between two parts, behind the comma. -/
def gap (pretty : Bool) (level : Nat) : String :=
  if pretty then lineBreak pretty level else " "

theorem toList_gap_compact (level : Nat) : (gap false level).toList = [' '] := by
  simp [gap]

theorem balanced_gap (pretty : Bool) (level : Nat) : Balanced (gap pretty level).toList := by
  cases pretty with
  | false =>
    rw [toList_gap_compact]
    exact fun _ => rfl
  | true => exact balanced_lineBreak true level

/-- Outside of strings, gaps are squeezed out. -/
theorem squeeze_gap (pretty : Bool) (level : Nat) :
    squeeze .bare (gap pretty level).toList = [] := by
  cases pretty with
  | false =>
    rw [toList_gap_compact]
    rfl
  | true => exact squeeze_lineBreak true level

/-- The text between two brackets. -/
def inBrackets (pretty : Bool) (level : Nat) (first : String) (rest : List String) : List Char :=
  (lineBreak pretty (level + 1)).toList ++ first.toList ++
    (rest.flatMap fun part => ',' :: ((gap pretty (level + 1)).toList ++ part.toList)) ++
    (lineBreak pretty level).toList

section

variable {opening closing : String} {o c : Char} (hopening : opening.toList = [o])
  (hclosing : closing.toList = [c])

include hopening hclosing

theorem toList_bracketed_nil (pretty : Bool) (level : Nat) :
    (bracketed pretty level opening closing []).toList = [o, c] := by
  have hempty : bracketed pretty level opening closing [] = opening ++ closing := rfl
  rw [hempty, String.toList_append, hopening, hclosing, List.singleton_append]

theorem toList_bracketed_cons (pretty : Bool) (level : Nat) (first : String) (rest : List String) :
    (bracketed pretty level opening closing (first :: rest)).toList =
      o :: (inBrackets pretty level first rest ++ [c]) := by
  have hseparator :
      (separator pretty (level + 1)).toList = ',' :: (gap pretty (level + 1)).toList := by
    cases pretty with
    | false => simp [separator, gap]
    | true => simp [separator, gap]
  have hnonempty : (first :: rest).isEmpty = false := rfl
  rw [bracketed, hnonempty, if_neg Bool.false_ne_true]
  simp only [String.toList_append, String.toList_intercalate, List.map_cons, intercalate_cons,
    hseparator, List.flatMap_map, List.append_assoc, List.cons_append, hopening, hclosing,
    inBrackets, List.nil_append]

end

/-- A part behind a comma. -/
theorem balanced_part (pretty : Bool) (level : Nat) {part : List Char} (h : Balanced part) :
    Balanced (',' :: ((gap pretty level).toList ++ part)) := by
  have hcomma : Balanced [','] := fun _ => rfl
  exact hcomma.append ((balanced_gap pretty level).append h)

theorem balanced_inBrackets {pretty : Bool} {level : Nat} {first : String} {rest : List String}
    (h : ∀ part ∈ first :: rest, Balanced part.toList) :
    Balanced (inBrackets pretty level first rest) := by
  have hfirst : Balanced first.toList := h first List.mem_cons_self
  have hrest := Balanced.flatMap fun part hpart =>
    balanced_part pretty (level + 1) (h part (List.mem_cons_of_mem first hpart))
  exact (((balanced_lineBreak pretty _).append hfirst).append hrest).append
    (balanced_lineBreak pretty level)

/-- Without layout, the parts stand one behind the other with commas between them. -/
theorem squeeze_inBrackets {pretty : Bool} {level : Nat} {first : String} {rest : List String}
    (h : ∀ part ∈ first :: rest, Balanced part.toList) :
    squeeze .bare (inBrackets pretty level first rest) =
      [','].intercalate ((first :: rest).map fun part => squeeze .bare part.toList) := by
  have hfirst : Balanced first.toList := h first List.mem_cons_self
  have hrest : ∀ part ∈ rest,
      Balanced (',' :: ((gap pretty (level + 1)).toList ++ part.toList)) := fun part hpart =>
    balanced_part pretty (level + 1) (h part (List.mem_cons_of_mem first hpart))
  have hbreak := balanced_lineBreak pretty (level + 1)
  have hpart : ∀ part : String,
      squeeze .bare (',' :: ((gap pretty (level + 1)).toList ++ part.toList)) =
        [','] ++ squeeze .bare part.toList := by
    intro part
    have hcomma : squeeze .bare (',' :: ((gap pretty (level + 1)).toList ++ part.toList)) =
        ',' :: squeeze .bare ((gap pretty (level + 1)).toList ++ part.toList) := rfl
    rw [hcomma, (balanced_gap pretty _).squeeze_append, squeeze_gap, List.nil_append,
      List.singleton_append]
  rw [inBrackets, ((hbreak.append hfirst).append (.flatMap hrest)).squeeze_append,
    (hbreak.append hfirst).squeeze_append, hbreak.squeeze_append, squeeze_lineBreak,
    squeeze_lineBreak, Balanced.squeeze_flatMap hrest, List.nil_append, List.append_nil,
    List.map_cons, intercalate_cons, List.flatMap_map]
  simp only [hpart]

/-- A part that is laid out, on a line of its own. -/
theorem indented_part {level : Nat} {part : List Char} (h : LaidOut level part)
    {brackets : List Char} (hlength : brackets.length = level) :
    Indented ⟨.bare, brackets⟩ ((lineBreak true level).toList ++ part) := by
  obtain ⟨c, rest, rfl, hc⟩ := h.begins
  simp only [List.mem_cons, List.not_mem_nil, or_false, not_or] at hc
  refine indented_line hc.1 ?_ (h.indented brackets hlength)
  rw [Place.depth, if_neg (not_or.mpr hc.2)]
  exact hlength

section

variable {opening closing : String} {o c : Char} (hopening : opening.toList = [o])
  (hclosing : closing.toList = [c]) (hpair : Encloses o c)

include hopening hclosing hpair

/-- Items in brackets are balanced if each of them is. -/
theorem balanced_bracketed {pretty : Bool} {level : Nat} {parts : List String}
    (h : ∀ part ∈ parts, Balanced part.toList) :
    Balanced (bracketed pretty level opening closing parts).toList := by
  cases parts with
  | nil =>
    rw [toList_bracketed_nil hopening hclosing]
    have hnothing : Balanced [] := fun _ => rfl
    exact hpair.balanced hnothing
  | cons first rest =>
    rw [toList_bracketed_cons hopening hclosing]
    exact hpair.balanced (balanced_inBrackets h)

/-- **Brackets around parts**, without layout. -/
theorem squeeze_bracketed {pretty : Bool} {level : Nat} {parts : List String}
    (h : ∀ part ∈ parts, Balanced part.toList) :
    squeeze .bare (bracketed pretty level opening closing parts).toList =
      o :: ([','].intercalate (parts.map fun part => squeeze .bare part.toList) ++ [c]) := by
  cases parts with
  | nil =>
    rw [toList_bracketed_nil hopening hclosing, hpair.squeeze_opening, hpair.squeeze_closing]
    rfl
  | cons first rest =>
    rw [toList_bracketed_cons hopening hclosing, hpair.squeeze_opening,
      (balanced_inBrackets h).squeeze_append, squeeze_inBrackets h, hpair.squeeze_closing]

omit hopening hclosing in
/-- The lines between two brackets are indented one level more than the closing bracket. -/
theorem indented_inBrackets {level : Nat} {first : String} {rest : List String}
    (h : ∀ part ∈ first :: rest, LaidOut (level + 1) part.toList) {brackets : List Char}
    (hlength : brackets.length = level) :
    Indented ⟨.bare, o :: brackets⟩ (inBrackets true level first rest ++ [c]) := by
  have hlines : (o :: brackets).length = level + 1 := congrArg (· + 1) hlength
  have hfirst := h first List.mem_cons_self
  have hclosed := hpair.not_blank c (List.mem_cons_of_mem o List.mem_cons_self)
  have hopened : Balanced ((lineBreak true (level + 1)).toList ++ first.toList) :=
    (balanced_lineBreak true _).append hfirst.balanced
  have hrest : ∀ part ∈ rest,
      Balanced (',' :: ((gap true (level + 1)).toList ++ part.toList)) ∧
        Indented ⟨.bare, o :: brackets⟩
          (',' :: ((gap true (level + 1)).toList ++ part.toList)) := by
    intro part hpart
    have hpart := h part (List.mem_cons_of_mem first hpart)
    refine ⟨balanced_part true _ hpart.balanced, .cons nofun ?_⟩
    rw [Place.next_of_not_delimiter (by decide)]
    exact indented_part hpart hlines
  rw [inBrackets, List.append_assoc]
  refine .append (.append (indented_part hfirst hlines) ?_) ?_
  · rw [hopened]
    exact Balanced.indented_flatMap hrest
  · rw [hopened.append (.flatMap fun part hpart => (hrest part hpart).1)]
    have hdepth : Place.depth ⟨.bare, o :: brackets⟩ c = level :=
      (hpair.depth_closing brackets).trans hlength
    refine indented_line hclosed.1 hdepth (.of_unbroken fun d hd => ?_)
    rw [List.mem_singleton.mp hd]
    exact hclosed.2

/-- **Brackets around parts** are laid out one level above the parts. -/
theorem laidOut_bracketed {level : Nat} {parts : List String}
    (h : ∀ part ∈ parts, LaidOut (level + 1) part.toList) :
    LaidOut level (bracketed true level opening closing parts).toList := by
  have hbalanced : Balanced (bracketed true level opening closing parts).toList :=
    balanced_bracketed hopening hclosing hpair fun part hpart => (h part hpart).balanced
  cases parts with
  | nil =>
    rw [toList_bracketed_nil hopening hclosing] at hbalanced ⊢
    exact ⟨hbalanced, ⟨o, [c], rfl, hpair.begins⟩,
      fun _ _ => .of_unbroken fun d hd => (hpair.not_blank d hd).2⟩
  | cons first rest =>
    rw [toList_bracketed_cons hopening hclosing] at hbalanced ⊢
    refine ⟨hbalanced, ⟨o, _, rfl, hpair.begins⟩, fun brackets hlength => .cons ?_ ?_⟩
    · rw [(hpair.not_blank o List.mem_cons_self).2]
      nofun
    · rw [hpair.next_opening]
      exact indented_inBrackets hpair h hlength

end

/-! ## Values -/

/-- The literal of a value that is neither a list nor an object. -/
theorem isToken_render (pretty : Bool) (level : Nat) {v : Value} (hv : v.isContainer = false) :
    IsToken (render pretty level v).toList := by
  cases v with
  | null | deletion =>
    rw [render]
    exact isToken_word (by decide)
  | bool b =>
    rw [render]
    cases b with
    | true | false => exact isToken_word (by decide)
  | int n => exact isToken_signedDecimal n.toInt
  | float x => exact FloatFormat.isToken_text x
  | string s => exact isToken_quote s
  | list items | object entries => cases hv

/-- A key and the colon behind it. -/
theorem toList_entry (key : String) (text : String) :
    (literalKey key ++ ": " ++ text).toList =
      (literalKey key).toList ++ ([':', ' '] ++ text.toList) := by
  simp

theorem balanced_colon : Balanced [':', ' '] :=
  fun _ => rfl

theorem balanced_entry (key : String) {text : List Char} (h : Balanced text) :
    Balanced ((literalKey key).toList ++ ([':', ' '] ++ text)) :=
  (isToken_literalKey key).balanced.append (balanced_colon.append h)

section

variable (pretty : Bool)

mutual

/-- The literal of a value is balanced. -/
theorem balanced_render : ∀ (v : Value) (level : Nat), Balanced (render pretty level v).toList
  | list items, level => by
    rw [render]
    exact balanced_bracketed rfl rfl (.inl ⟨rfl, rfl⟩) (balanced_renderItems items (level + 1))
  | object entries, level => by
    rw [render]
    exact balanced_bracketed rfl rfl (.inr ⟨rfl, rfl⟩) (balanced_renderEntries entries (level + 1))
  | null, level | deletion, level | bool _, level | int _, level | float _, level
  | string _, level => (isToken_render pretty level rfl).balanced

/-- The items of a list are balanced, by induction on them. -/
theorem balanced_renderItems : ∀ (items : List Value) (level : Nat),
    ∀ part ∈ renderItems pretty level items, Balanced part.toList
  | [], _, part, hpart => by cases hpart
  | v :: rest, level, part, hpart => by
    rw [renderItems, List.mem_cons] at hpart
    rcases hpart with rfl | hpart
    · exact balanced_render v level
    · exact balanced_renderItems rest level part hpart

theorem balanced_renderEntries : ∀ (entries : List (String × Value)) (level : Nat),
    ∀ part ∈ renderEntries pretty level entries, Balanced part.toList
  | [], _, part, hpart => by cases hpart
  | (key, v) :: rest, level, part, hpart => by
    rw [renderEntries, List.mem_cons] at hpart
    rcases hpart with rfl | hpart
    · rw [toList_entry]
      exact balanced_entry key (balanced_render v level)
    · exact balanced_renderEntries rest level part hpart

end

end

mutual

/-- The two forms of a literal are the same without layout. -/
theorem squeeze_render : ∀ (v : Value) (level level' : Nat),
    squeeze .bare (render true level v).toList = squeeze .bare (render false level' v).toList
  | list items, level, level' => by
    rw [render, render,
      squeeze_bracketed rfl rfl (.inl ⟨rfl, rfl⟩) (balanced_renderItems true items (level + 1)),
      squeeze_bracketed rfl rfl (.inl ⟨rfl, rfl⟩) (balanced_renderItems false items (level' + 1)),
      squeeze_renderItems items (level + 1) (level' + 1)]
  | object entries, level, level' => by
    rw [render, render,
      squeeze_bracketed rfl rfl (.inr ⟨rfl, rfl⟩)
        (balanced_renderEntries true entries (level + 1)),
      squeeze_bracketed rfl rfl (.inr ⟨rfl, rfl⟩)
        (balanced_renderEntries false entries (level' + 1)),
      squeeze_renderEntries entries (level + 1) (level' + 1)]
  | null, _, _ | deletion, _, _ | bool _, _, _ | int _, _, _ | float _, _, _ | string _, _, _ => by
    rw [render, render]

/-- The items of a list are squeezed to the same on any two levels. -/
theorem squeeze_renderItems : ∀ (items : List Value) (level level' : Nat),
    (renderItems true level items).map (fun part => squeeze .bare part.toList) =
      (renderItems false level' items).map fun part => squeeze .bare part.toList
  | [], _, _ => rfl
  | v :: rest, level, level' => by
    rw [renderItems, renderItems, List.map_cons, List.map_cons, squeeze_render v level level',
      squeeze_renderItems rest level level']

theorem squeeze_renderEntries : ∀ (entries : List (String × Value)) (level level' : Nat),
    (renderEntries true level entries).map (fun part => squeeze .bare part.toList) =
      (renderEntries false level' entries).map fun part => squeeze .bare part.toList
  | [], _, _ => rfl
  | (key, v) :: rest, level, level' => by
    have hkey := (isToken_literalKey key).balanced
    rw [renderEntries, renderEntries, List.map_cons, List.map_cons, toList_entry, toList_entry,
      hkey.squeeze_append, hkey.squeeze_append, balanced_colon.squeeze_append,
      balanced_colon.squeeze_append, squeeze_render v level level',
      squeeze_renderEntries rest level level']

end

mutual

/-- **The pretty form of a value is laid out** at the depth that it is written at. -/
theorem laidOut_render : ∀ (v : Value) (level : Nat), LaidOut level (render true level v).toList
  | list items, level => by
    rw [render]
    exact laidOut_bracketed rfl rfl (.inl ⟨rfl, rfl⟩) (laidOut_renderItems items (level + 1))
  | object entries, level => by
    rw [render]
    exact laidOut_bracketed rfl rfl (.inr ⟨rfl, rfl⟩) (laidOut_renderEntries entries (level + 1))
  | null, level | deletion, level | bool _, level | int _, level | float _, level
  | string _, level => (isToken_render true level rfl).laidOut level

/-- The items of a list are laid out on the level of the list. -/
theorem laidOut_renderItems : ∀ (items : List Value) (level : Nat),
    ∀ part ∈ renderItems true level items, LaidOut level part.toList
  | [], _, part, hpart => by cases hpart
  | v :: rest, level, part, hpart => by
    rw [renderItems, List.mem_cons] at hpart
    rcases hpart with rfl | hpart
    · exact laidOut_render v level
    · exact laidOut_renderItems rest level part hpart

theorem laidOut_renderEntries : ∀ (entries : List (String × Value)) (level : Nat),
    ∀ part ∈ renderEntries true level entries, LaidOut level part.toList
  | [], _, part, hpart => by cases hpart
  | (key, v) :: rest, level, part, hpart => by
    rw [renderEntries, List.mem_cons] at hpart
    rcases hpart with rfl | hpart
    · have hvalue := laidOut_render v level
      have hkey := isToken_literalKey key
      obtain ⟨c, more, hcons, hc⟩ := hkey.begins
      rw [toList_entry]
      refine ⟨balanced_entry key hvalue.balanced, ?_, fun brackets hlength => ?_⟩
      · exact ⟨c, _, by rw [hcons, List.cons_append], hc⟩
      · refine .append (.of_unbroken hkey.unbroken) ?_
        rw [hkey.balanced]
        refine .append (.of_unbroken (forall_of_all (by decide))) ?_
        rw [balanced_colon]
        exact hvalue.indented brackets hlength
    · exact laidOut_renderEntries rest level part hpart

end

/-- **The two forms of a literal differ in layout only.** Without the spaces and line breaks outside
quoted texts they are the same text; and in the pretty form every line break outside quoted texts is
followed by exactly two spaces for each list and object that is open there. -/
theorem literalPretty_layout (v : Value) :
    squeeze .bare v.literalPretty.toList = squeeze .bare v.literal.toList ∧
      Indented .start v.literalPretty.toList :=
  ⟨squeeze_render v 0 0, (laidOut_render v 0).indented [] rfl⟩

example : (object [("a", list [int 1])]).literalPretty = "\x7b\n  a: [\n    1\n  ]\n\x7d" := by
  decide +kernel

end Value

end Graft
