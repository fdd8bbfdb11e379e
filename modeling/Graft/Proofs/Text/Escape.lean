import Mathlib.Data.List.TakeWhile
import Graft.Proofs.Number.Numeral
import Graft.Text.Quoted

/-!
What quoted texts are spelled with.

A token may stand between quotes, and what is between them is a sequence of characters that stand
for themselves and of escapes that stand for a character. `Escape` lists the escapes: a letter, a
code point in braces, and a code point in four digits. `Spelling` is the sequence, and `Denotes`
the whole token.

Decoding accepts more than that. The digits are left to the reader of numbers, which takes a plus
sign before them, and the end of the text closes a code point early, with the brace still missing
or with fewer than four digits. `LaxEscape` lists these. Everything else that is accepted is
spelled with escapes, and everything that is spelled with them is accepted.
-/

set_option autoImplicit false

namespace Graft.Text

open Numeral (Hexadecimal)

/-! ## Escapes -/

/-- The letters of escapes, and the characters that they stand for. -/
def escapeLetters : List (Char × Char) :=
  [('n', '\n'), ('r', '\r'), ('t', '\t'), ('0', '\x00'), ('\\', '\\'), ('"', '"'), ('\'', '\'')]

/-- What is behind a backslash begins with an escape: the character that it stands for, and what
follows it. -/
inductive Escape : List Char → Char → List Char → Prop where
  /-- A letter. -/
  | letter {c d : Char} (h : (c, d) ∈ escapeLetters) (rest : List Char) : Escape (c :: rest) d rest
  /-- A code point in braces. -/
  | braced {digits : List Char} {d : Char} (h : Hexadecimal digits d.toNat) (rest : List Char) :
      Escape ('u' :: '{' :: (digits ++ '}' :: rest)) d rest
  /-- A code point in four digits. -/
  | four {digits : List Char} {d : Char} (hlength : digits.length = 4)
      (h : Hexadecimal digits d.toNat) (rest : List Char) : Escape ('u' :: (digits ++ rest)) d rest

/-- What the reader of numbers takes for a code point: digits, or digits behind a plus sign. -/
def Named (digits : List Char) (d : Char) : Prop :=
  Hexadecimal digits d.toNat ∨ ∃ rest, digits = '+' :: rest ∧ Hexadecimal rest d.toNat

/-- What is behind a backslash is no escape, and still taken for one. -/
inductive LaxEscape : List Char → Char → List Char → Prop where
  /-- A plus sign in braces. -/
  | signedBraced {digits : List Char} {d : Char} (h : Hexadecimal digits d.toNat)
      (rest : List Char) : LaxEscape ('u' :: '{' :: '+' :: (digits ++ '}' :: rest)) d rest
  /-- A plus sign in the place of the first of four digits. -/
  | signedFour {digits : List Char} {d : Char} (hlength : digits.length = 3)
      (h : Hexadecimal digits d.toNat) (rest : List Char) :
      LaxEscape ('u' :: '+' :: (digits ++ rest)) d rest
  /-- A brace that is not closed. -/
  | unclosed {digits : List Char} {d : Char} (h : Named digits d) :
      LaxEscape ('u' :: '{' :: digits) d []
  /-- Fewer than four characters before the end of the text. -/
  | short {digits : List Char} {d : Char} (hlength : digits.length < 4) (h : Named digits d) :
      LaxEscape ('u' :: digits) d []

/-- What is taken for an escape. -/
def Accepted (cs : List Char) (d : Char) (rest : List Char) : Prop :=
  Escape cs d rest ∨ LaxEscape cs d rest

/-! ## Texts and tokens -/

/-- What is between quotes, and the text that it stands for: escapes stand for a character, and
other characters for themselves. -/
inductive Spelling (escapes : List Char → Char → List Char → Prop) :
    List Char → List Char → Prop where
  | nil : Spelling escapes [] []
  | plain {c : Char} {cs shown : List Char} (hc : c ≠ '\\') (h : Spelling escapes cs shown) :
      Spelling escapes (c :: cs) (c :: shown)
  | escape {cs rest shown : List Char} {d : Char} (hd : escapes cs d rest)
      (h : Spelling escapes rest shown) : Spelling escapes ('\\' :: cs) (d :: shown)

/-- What is between the quotes of a token, or all of it when it has no matching pair. -/
def Bare (token inner : List Char) : Prop :=
  (∃ q ∈ ['"', '\''], token = q :: (inner ++ [q])) ∨
    inner = token ∧ ∀ q ∈ ['"', '\''], ∀ other, token ≠ q :: (other ++ [q])

/-- The text that a token stands for. -/
def Denotes (escapes : List Char → Char → List Char → Prop) (token shown : List Char) : Prop :=
  ∃ inner, Bare token inner ∧ Spelling escapes inner shown

/-- A text in which something is taken for an escape that is none, behind a beginning in which
everything is spelled as it should be. -/
inductive Careless : List Char → Prop where
  | here {cs rest : List Char} {d : Char} (h : LaxEscape cs d rest) : Careless ('\\' :: cs)
  | plain {c : Char} {cs : List Char} (hc : c ≠ '\\') (h : Careless cs) : Careless (c :: cs)
  | behind {cs rest : List Char} {d : Char} (hd : Escape cs d rest) (h : Careless rest) :
      Careless ('\\' :: cs)

/-! ## What cannot be in a code point -/

/-- What is no hexadecimal digit is not among digits. -/
theorem not_hexDigit {c : Char} (hc : c ∉ "0123456789abcdefABCDEF".toList) {digits : List Char}
    {n : Nat} (h : Hexadecimal digits n) : c ∉ digits :=
  fun hmem => hc (h.mem hmem)

/-- A text that begins with hexadecimal digits begins with none of the other characters. -/
theorem hexadecimal_append_ne {digits : List Char} {n : Nat} (h : Hexadecimal digits n) {c : Char}
    (hc : c ∉ "0123456789abcdefABCDEF".toList) (x y : List Char) : digits ++ x ≠ c :: y := by
  obtain ⟨first, rest, rfl⟩ := List.exists_cons_of_ne_nil h.1
  intro he
  obtain rfl := (List.cons.inj he).1
  exact not_hexDigit hc h List.mem_cons_self

theorem Named.not_mem {digits : List Char} {d c : Char} (h : Named digits d)
    (hc : c ∉ '+' :: "0123456789abcdefABCDEF".toList) : c ∉ digits := by
  rw [List.mem_cons, not_or] at hc
  rcases h with h | ⟨rest, rfl, h⟩
  · exact not_hexDigit hc.2 h
  · rw [List.mem_cons, not_or]
    exact ⟨hc.1, not_hexDigit hc.2 h⟩

/-- A character is not named by nothing. -/
theorem Named.ne_nil {digits : List Char} {d : Char} (h : Named digits d) : digits ≠ [] := by
  rcases h with h | ⟨rest, rfl, _⟩
  · exact h.1
  · exact List.cons_ne_nil _ _

/-- The letter of a code point is not one of the others. -/
theorem letter_ne {c d : Char} (h : (c, d) ∈ escapeLetters) : c ≠ 'u' := by
  rintro rfl
  simp [escapeLetters] at h

/-- What is spelled as it should be is not taken for an escape by mistake. -/
theorem Escape.not_lax {cs rest rest' : List Char} {d d' : Char} (h : Escape cs d rest) :
    ¬ LaxEscape cs d' rest' := by
  -- The text is told from its beginning, so the two forms are compared as texts.
  have htext : ∀ {cs'}, cs' = cs → LaxEscape cs' d' rest' → False := by
    intro cs' he hlax
    cases h with
    | letter hletter => cases hlax <;> exact letter_ne hletter (List.cons.inj he).1.symm
    | braced hdigits =>
      cases hlax with
      | signedBraced =>
        simp only [List.cons.injEq, true_and] at he
        exact hexadecimal_append_ne hdigits (by decide) _ _ he.symm
      | signedFour => simp at he
      | unclosed hnamed =>
        simp only [List.cons.injEq, true_and] at he
        exact hnamed.not_mem (c := '}') (by decide) (by simp [he])
      | short _ hnamed =>
        simp only [List.cons.injEq, true_and] at he
        exact hnamed.not_mem (c := '{') (by decide) (by simp [he])
    | four hlength hdigits =>
      cases hlax with
      | signedBraced | signedFour | unclosed =>
        simp only [List.cons.injEq, true_and] at he
        exact hexadecimal_append_ne hdigits (by decide) _ _ he.symm
      | short hless =>
        simp only [List.cons.injEq, true_and] at he
        rw [he, List.length_append] at hless
        omega
  exact htext rfl

/-! ## Reading an escape -/

theorem escapeLetter?_eq_some_iff {c d : Char} :
    escapeLetter? c = some d ↔ (c, d) ∈ escapeLetters := by
  unfold escapeLetter?
  split <;> simp_all [escapeLetters, eq_comm]

/-- Digits are read exactly if they name a character, for which there may be a plus sign before
them. -/
theorem charOfHex_eq_ok_iff {digits : List Char} {d : Char} :
    charOfHex digits = .ok d ↔ Named digits d := by
  have hnamed : Numeral.unsigned? 16 Numeral.shortWordBound digits = some d.toNat ↔
      Named digits d := by
    have hbound : d.toNat < Numeral.shortWordBound := d.val.toNat_lt
    simp only [Numeral.unsigned?_eq_some_iff, Numeral.digits?_sixteen_iff, hbound, true_and, Named]
  rw [← hnamed, charOfHex]
  cases hread : Numeral.unsigned? 16 Numeral.shortWordBound digits with
  | none => simp
  | some n =>
    rw [Option.some_inj]
    dsimp only
    constructor
    · intro h
      split at h
      next hvalid =>
        obtain rfl := Except.ok.inj h
        rw [Char.ofNat, dif_pos hvalid]
        rfl
      next => cases h
    · rintro rfl
      have hvalid : d.toNat.isValidChar := d.valid
      rw [if_pos hvalid, Char.ofNat_toNat]

/-- Reads a code point behind its letter: what is before a closing brace or the end, or up to four
characters. -/
def readCodePoint : List Char → Except EscapeError (Char × List Char)
  | [] => .error (.noCharacter "")
  | c :: body =>
    if c = '{' then
      (charOfHex (body.takeWhile (· ≠ '}'))).map (·, (body.dropWhile (· ≠ '}')).tail)
    else (charOfHex (c :: body.take 3)).map (·, body.drop 3)

/-- Reads an escape behind its backslash. -/
def readEscape : List Char → Except EscapeError (Char × List Char)
  | [] => .error .unfinished
  | c :: rest =>
    if c = 'u' then readCodePoint rest
    else match escapeLetter? c with
      | some d => .ok (d, rest)
      | none => .error (.unknown c)

theorem map_charOfHex_eq_ok_iff {digits rest rest' : List Char} {d : Char} :
    (charOfHex digits).map (·, rest) = .ok (d, rest') ↔ Named digits d ∧ rest = rest' := by
  rw [← charOfHex_eq_ok_iff]
  cases charOfHex digits with
  | error => simp [Except.map]
  | ok => simp [Except.map]

/-- In braces, all digits up to the closing one are read. -/
theorem readCodePoint_braced {digits : List Char} (h : '}' ∉ digits) (rest : List Char) :
    readCodePoint ('{' :: (digits ++ '}' :: rest)) = (charOfHex digits).map (·, rest) := by
  have hall : ∀ c ∈ digits, decide (c ≠ '}') = true :=
    fun c hc => decide_eq_true fun he => h (he ▸ hc)
  rw [readCodePoint, if_pos rfl, List.takeWhile_append_of_pos hall,
    List.dropWhile_append_of_pos hall, List.takeWhile_cons_of_neg (by decide), List.append_nil,
    List.dropWhile_cons_of_neg (by decide), List.tail_cons]

/-- Without a closing brace, all that is left is read. -/
theorem readCodePoint_unclosed {digits : List Char} (h : '}' ∉ digits) :
    readCodePoint ('{' :: digits) = (charOfHex digits).map (·, []) := by
  have hall : ∀ c ∈ digits, decide (c ≠ '}') = true :=
    fun c hc => decide_eq_true fun he => h (he ▸ hc)
  rw [readCodePoint, if_pos rfl, List.takeWhile_eq_self_iff.mpr hall,
    List.dropWhile_eq_nil_iff.mpr hall, List.tail_nil]

/-- Without braces, four characters are read. -/
theorem readCodePoint_four {c : Char} {digits : List Char} (hc : c ≠ '{')
    (hlength : digits.length = 3) (rest : List Char) :
    readCodePoint (c :: (digits ++ rest)) = (charOfHex (c :: digits)).map (·, rest) := by
  rw [readCodePoint, if_neg hc, List.take_left' hlength, List.drop_left' hlength]

/-- At the end there may be fewer than four, and they are read as they are. -/
theorem readCodePoint_short {c : Char} {digits : List Char} (hc : c ≠ '{')
    (hlength : digits.length < 3) :
    readCodePoint (c :: digits) = (charOfHex (c :: digits)).map (·, []) := by
  rw [readCodePoint, if_neg hc, List.take_of_length_le (Nat.le_of_lt hlength),
    List.drop_of_length_le (Nat.le_of_lt hlength)]

theorem accepted_braced {digits : List Char} {d : Char} (h : Named digits d) (rest : List Char) :
    Accepted ('u' :: '{' :: (digits ++ '}' :: rest)) d rest := by
  rcases h with h | ⟨digits, rfl, h⟩
  · exact .inl (.braced h rest)
  · exact .inr (.signedBraced h rest)

theorem accepted_four {digits : List Char} {d : Char} (hlength : digits.length = 4)
    (h : Named digits d) (rest : List Char) : Accepted ('u' :: (digits ++ rest)) d rest := by
  rcases h with h | ⟨digits, rfl, h⟩
  · exact .inl (.four hlength h rest)
  · exact .inr (.signedFour (Nat.succ.inj hlength) h rest)

/-- What is read as a character is accepted, in one of the ways in which it may be written. -/
theorem accepted_of_readCodePoint {cs rest : List Char} {d : Char}
    (h : readCodePoint cs = .ok (d, rest)) : Accepted ('u' :: cs) d rest := by
  match cs with
  | [] => cases h
  | c :: body =>
    by_cases hc : c = '{'
    · subst hc
      by_cases hclosed : '}' ∈ body
      · obtain ⟨digits, behind, rfl, hdigits⟩ := List.eq_append_cons_of_mem hclosed
        rw [readCodePoint_braced hdigits] at h
        obtain ⟨hnamed, rfl⟩ := map_charOfHex_eq_ok_iff.mp h
        exact accepted_braced hnamed _
      · rw [readCodePoint_unclosed hclosed] at h
        obtain ⟨hnamed, rfl⟩ := map_charOfHex_eq_ok_iff.mp h
        exact .inr (.unclosed hnamed)
    · rcases Nat.lt_or_ge body.length 3 with hlength | hlength
      · rw [readCodePoint_short hc hlength] at h
        obtain ⟨hnamed, rfl⟩ := map_charOfHex_eq_ok_iff.mp h
        exact .inr (.short (Nat.succ_lt_succ hlength) hnamed)
      · have hthree : (body.take 3).length = 3 := List.length_take_of_le hlength
        rw [← List.take_append_drop 3 body, readCodePoint_four hc hthree] at h
        obtain ⟨hnamed, rfl⟩ := map_charOfHex_eq_ok_iff.mp h
        have hfour : (c :: body.take 3).length = 4 := congrArg Nat.succ hthree
        have haccepted := accepted_four hfour hnamed (body.drop 3)
        rwa [List.cons_append, List.take_append_drop] at haccepted

/-- **What is read is what is taken for an escape.** -/
theorem readEscape_eq_ok_iff {cs rest : List Char} {d : Char} :
    readEscape cs = .ok (d, rest) ↔ Accepted cs d rest := by
  constructor
  · intro h
    match cs with
    | [] => cases h
    | c :: tail =>
      rw [readEscape] at h
      split at h
      next hu => exact hu ▸ accepted_of_readCodePoint h
      next hu =>
        split at h
        next heq =>
          cases h
          exact .inl (.letter (escapeLetter?_eq_some_iff.mp heq) _)
        next => cases h
  · intro h
    have hread : ∀ {cs}, readCodePoint cs = .ok (d, rest) →
        readEscape ('u' :: cs) = .ok (d, rest) := fun h => h
    -- Digits are neither braces nor signs, so that what is read of them stops behind them.
    rcases h with h | h
    · cases h with
      | letter hletter =>
        rw [readEscape, if_neg (letter_ne hletter), escapeLetter?_eq_some_iff.mpr hletter]
      | braced hdigits =>
        apply hread
        rw [readCodePoint_braced (not_hexDigit (by decide) hdigits)]
        exact map_charOfHex_eq_ok_iff.mpr ⟨.inl hdigits, rfl⟩
      | four hlength hdigits =>
        obtain ⟨c, digits, rfl⟩ := List.exists_cons_of_ne_nil hdigits.1
        have hc : c ≠ '{' := by
          rintro rfl
          exact not_hexDigit (by decide) hdigits List.mem_cons_self
        apply hread
        rw [List.cons_append, readCodePoint_four hc (Nat.succ.inj hlength)]
        exact map_charOfHex_eq_ok_iff.mpr ⟨.inl hdigits, rfl⟩
    · cases h with
      | @signedBraced digits d hdigits =>
        have hnamed : Named ('+' :: digits) d := .inr ⟨digits, rfl, hdigits⟩
        apply hread
        rw [← List.cons_append, readCodePoint_braced (hnamed.not_mem (by decide))]
        exact map_charOfHex_eq_ok_iff.mpr ⟨hnamed, rfl⟩
      | signedFour hlength hdigits =>
        apply hread
        rw [readCodePoint_four (by decide) hlength]
        exact map_charOfHex_eq_ok_iff.mpr ⟨.inr ⟨_, rfl, hdigits⟩, rfl⟩
      | unclosed hnamed =>
        apply hread
        rw [readCodePoint_unclosed (hnamed.not_mem (by decide))]
        exact map_charOfHex_eq_ok_iff.mpr ⟨hnamed, rfl⟩
      | short hlength hnamed =>
        obtain ⟨c, digits, rfl⟩ := List.exists_cons_of_ne_nil hnamed.ne_nil
        have hc : c ≠ '{' := by
          rintro rfl
          exact hnamed.not_mem (by decide) List.mem_cons_self
        apply hread
        rw [readCodePoint_short hc (Nat.lt_of_succ_lt_succ hlength)]
        exact map_charOfHex_eq_ok_iff.mpr ⟨hnamed, rfl⟩

/-- Decodes what is behind an escape that has been read, and puts its character before that. -/
def decodeBehind (escape : Except EscapeError (Char × List Char)) :
    Except EscapeError (List Char) :=
  escape.bind fun (d, rest) => (decodeFrom .plain rest).map (d :: ·)

/-- Inside braces, decoding collects digits up to the closing one, and goes on behind it. -/
theorem decodeFrom_braced (cs : List Char) :
    ∀ digits, decodeFrom (.braced digits) cs =
      decodeBehind ((charOfHex (digits ++ cs.takeWhile (· ≠ '}'))).map
        (·, (cs.dropWhile (· ≠ '}')).tail)) := by
  induction cs with
  | nil =>
    intro digits
    rw [decodeFrom, List.takeWhile_nil, List.append_nil]
    cases charOfHex digits <;> rfl
  | cons c rest ih =>
    intro digits
    rw [decodeFrom]
    by_cases hc : c = '}'
    · rw [if_pos hc, List.takeWhile_cons_of_neg (by simp [hc]), List.append_nil,
        List.dropWhile_cons_of_neg (by simp [hc]), List.tail_cons]
      cases charOfHex digits <;> rfl
    · rw [if_neg hc, ih, List.takeWhile_cons_of_pos (by simp [hc]),
        List.dropWhile_cons_of_pos (by simp [hc]), List.append_assoc, List.singleton_append]

/-- Otherwise it collects up to four. -/
theorem decodeFrom_four (cs : List Char) :
    ∀ {digits}, digits.length ≤ 3 → decodeFrom (.four digits) cs =
      decodeBehind ((charOfHex (digits ++ cs.take (4 - digits.length))).map
        (·, cs.drop (4 - digits.length))) := by
  induction cs with
  | nil =>
    intro digits _
    rw [decodeFrom, List.take_nil, List.append_nil, List.drop_nil]
    cases charOfHex digits <;> rfl
  | cons c rest ih =>
    intro digits hdigits
    have hlength : (digits ++ [c]).length = digits.length + 1 := by
      rw [List.length_append, List.length_singleton]
    have hleft : 4 - digits.length = (3 - digits.length) + 1 := by omega
    rw [decodeFrom, hleft, List.take_succ_cons, List.drop_succ_cons,
      List.append_cons digits c (rest.take (3 - digits.length))]
    split
    next =>
      have hrest : 4 - (digits ++ [c]).length = 3 - digits.length := by omega
      rw [ih (by omega), hrest]
    next =>
      have hnone : 3 - digits.length = 0 := by omega
      rw [hnone, List.take_zero, List.append_nil, List.drop_zero]
      cases charOfHex (digits ++ [c]) <;> rfl

/-- Behind a backslash, an escape is read and what follows it is decoded. -/
theorem decodeFrom_escape (cs : List Char) :
    decodeFrom .escape cs = decodeBehind (readEscape cs) := by
  match cs with
  | [] => rfl
  | c :: rest =>
    rw [decodeFrom, readEscape]
    split
    next =>
      match rest with
      | [] => rfl
      | c :: rest =>
        rw [decodeFrom, readCodePoint]
        split
        next => exact decodeFrom_braced rest []
        next => exact decodeFrom_four rest (Nat.succ_le_succ (Nat.zero_le 2))
    next => cases escapeLetter? c <;> rfl

/-! ## Reading a text -/

/-- An escape is decoded if it can be read and what is behind it can be decoded. -/
theorem decodeBehind_eq_ok_iff {escape : Except EscapeError (Char × List Char)}
    {shown : List Char} :
    decodeBehind escape = .ok shown ↔ ∃ d rest behind, escape = .ok (d, rest) ∧
      decodeFrom .plain rest = .ok behind ∧ shown = d :: behind := by
  cases escape with
  | error => simp [decodeBehind, Except.bind]
  | ok r =>
    obtain ⟨d, rest⟩ := r
    cases hrest : decodeFrom .plain rest with
    | error => simp [decodeBehind, Except.bind, Except.map, hrest]
    | ok behind => simp [decodeBehind, Except.bind, Except.map, hrest, eq_comm]

/-- An escape is not empty. -/
theorem Accepted.length_lt {cs rest : List Char} {d : Char} (h : Accepted cs d rest) :
    rest.length < cs.length := by
  rcases h with h | h <;> cases h <;> simp only [List.length_cons, List.length_append,
    List.length_nil] <;> omega

/-- What is taken for an escape stands for one character and ends at one place. -/
theorem Accepted.unique {cs rest rest' : List Char} {d d' : Char} (h : Accepted cs d rest)
    (h' : Accepted cs d' rest') : d = d' ∧ rest = rest' := by
  have hread := (readEscape_eq_ok_iff.mpr h).symm.trans (readEscape_eq_ok_iff.mpr h')
  exact Prod.mk.inj (Except.ok.inj hread)

/-- **A text is decoded as it is spelled.** -/
theorem decodeFrom_plain_eq_ok_iff {cs shown : List Char} :
    decodeFrom .plain cs = .ok shown ↔ Spelling Accepted cs shown := by
  constructor
  · -- What follows an escape is shorter than the text, but no part of it that recursion reaches.
    induction hn : cs.length using Nat.strong_induction_on generalizing cs shown with
    | _ n ih =>
      intro h
      match cs with
      | [] =>
        cases h
        exact .nil
      | c :: cs =>
        rw [decodeFrom] at h
        split at h
        next hc =>
          rw [decodeFrom_escape] at h
          obtain ⟨d, rest, behind, hread, hbehind, rfl⟩ := decodeBehind_eq_ok_iff.mp h
          have haccepted := readEscape_eq_ok_iff.mp hread
          have hless := haccepted.length_lt
          rw [List.length_cons] at hn
          exact hc ▸ .escape haccepted (ih rest.length (by omega) rfl hbehind)
        next hc =>
          cases hbehind : decodeFrom .plain cs with
          | error =>
            rw [hbehind] at h
            cases h
          | ok behind =>
            rw [hbehind] at h
            cases h
            rw [List.length_cons] at hn
            exact .plain hc (ih cs.length (by omega) rfl hbehind)
  · intro h
    induction h with
    | nil => rfl
    | plain hc _ ih =>
      rw [decodeFrom, if_neg hc, ih]
      rfl
    | escape hd _ ih =>
      rw [decodeFrom, if_pos rfl, decodeFrom_escape]
      exact decodeBehind_eq_ok_iff.mpr ⟨_, _, _, readEscape_eq_ok_iff.mpr hd, ih, rfl⟩

/-- A text is enclosed by a mark that it begins and ends with. -/
theorem enclosedBy?_eq_some_iff {q : Char} {cs inner : List Char} :
    enclosedBy? q cs = some inner ↔ cs = q :: (inner ++ [q]) := by
  constructor
  · intro h
    match cs with
    | [] => cases h
    | c :: rest =>
      rw [enclosedBy?] at h
      split at h
      next hc =>
        split at h
        next d hlast =>
          obtain ⟨hd, hinner⟩ := Option.ite_none_right_eq_some.mp h
          obtain rfl := Option.some.inj hinner
          rw [hc, ← hd, List.dropLast_append_getLast? d hlast]
        next => cases h
      next => cases h
  · rintro rfl
    simp [enclosedBy?]

/-- What is left of a token is what is between its quotes. -/
theorem bare_iff {token inner : List Char} : Bare token inner ↔ unquoted token = inner := by
  have hfound : ∀ {q}, enclosedBy? q token = none → ∀ other, token ≠ q :: (other ++ [q]) := by
    intro q hnone other he
    rw [enclosedBy?_eq_some_iff.mpr he] at hnone
    cases hnone
  constructor
  · rintro (⟨q, hq, he⟩ | ⟨rfl, hnone⟩)
    · simp only [List.mem_cons, List.not_mem_nil, or_false] at hq
      rcases hq with rfl | rfl
      · rw [unquoted, enclosedBy?_eq_some_iff.mpr he]
      · -- A token that begins with the one quote does not begin with the other.
        have hdouble : enclosedBy? '"' token = none := by
          rw [he, enclosedBy?, if_neg (by decide)]
        rw [unquoted, hdouble, enclosedBy?_eq_some_iff.mpr he, Option.getD_some]
    · have hnothing : ∀ q ∈ ['"', '\''], enclosedBy? q inner = none := by
        intro q hq
        cases hquote : enclosedBy? q inner with
        | none => rfl
        | some other => exact absurd (enclosedBy?_eq_some_iff.mp hquote) (hnone q hq other)
      rw [unquoted, hnothing '"' (by decide), hnothing '\'' (by decide), Option.getD_none]
  · rintro rfl
    rw [unquoted]
    cases hdouble : enclosedBy? '"' token with
    | some inner => exact .inl ⟨_, by decide, enclosedBy?_eq_some_iff.mp hdouble⟩
    | none =>
      cases hsingle : enclosedBy? '\'' token with
      | some inner => exact .inl ⟨_, by decide, enclosedBy?_eq_some_iff.mp hsingle⟩
      | none =>
        refine .inr ⟨rfl, fun q hq => ?_⟩
        simp only [List.mem_cons, List.not_mem_nil, or_false] at hq
        rcases hq with rfl | rfl
        · exact hfound hdouble
        · exact hfound hsingle

/-- With more escapes, more can be spelled. -/
theorem Spelling.mono {E E' : List Char → Char → List Char → Prop}
    (hE : ∀ {cs d rest}, E cs d rest → E' cs d rest) {cs shown : List Char}
    (h : Spelling E cs shown) : Spelling E' cs shown := by
  induction h with
  | nil => exact .nil
  | plain hc _ ih => exact .plain hc ih
  | escape hd _ ih => exact .escape (hE hd) ih

/-- What is accepted is spelled with escapes, or careless. -/
theorem Spelling.escape_or_careless {cs shown : List Char} (h : Spelling Accepted cs shown) :
    Spelling Escape cs shown ∨ Careless cs := by
  induction h with
  | nil => exact .inl .nil
  | plain hc _ ih => exact ih.imp (.plain hc) (.plain hc)
  | escape hd _ ih =>
    rcases hd with hd | hd
    · exact ih.imp (.escape hd) (.behind hd)
    · exact .inr (.here hd)

/-- What is spelled with escapes is not careless. -/
theorem Spelling.not_careless {cs shown : List Char} (h : Spelling Escape cs shown) :
    ¬ Careless cs := by
  intro hcareless
  induction h with
  | nil => cases hcareless
  | plain hc _ ih =>
    cases hcareless with
    | here | behind => exact hc rfl
    | plain _ hrest => exact ih hrest
  | escape hd _ ih =>
    cases hcareless with
    | here hlax => exact hd.not_lax hlax
    | plain hc => exact hc rfl
    | behind hd' hrest =>
      obtain ⟨-, rfl⟩ := Accepted.unique (.inl hd) (.inl hd')
      exact ih hrest

/-- Every error says what it is about. -/
theorem EscapeError.message_begins (e : EscapeError) :
    ∃ rest, e.message = "invalid escape sequence" ++ rest := by
  cases e with
  | unknown c =>
    have hfirst : "invalid escape sequence `\\" = "invalid escape sequence" ++ " `\\" := by decide
    refine ⟨" `\\" ++ c.toString ++ "`", ?_⟩
    show "invalid escape sequence `\\" ++ c.toString ++ "`" = _
    rw [hfirst, String.append_assoc, String.append_assoc, String.append_assoc]
  | unfinished => exact ⟨" at end of string", by decide⟩
  | noCharacter digits =>
    have hfirst : "invalid escape sequence `\\u" = "invalid escape sequence" ++ " `\\u" := by
      decide
    refine ⟨" `\\u" ++ digits ++ "`", ?_⟩
    show "invalid escape sequence `\\u" ++ digits ++ "`" = _
    rw [hfirst, String.append_assoc, String.append_assoc, String.append_assoc]

/-! ## Reading a token -/

/-- **Decoding.** A literal is decoded to a text exactly if it denotes that text, with the escapes
that are accepted. -/
theorem decode_eq_ok_iff {s t : String} :
    decode s = .ok t ↔ Denotes Accepted s.toList t.toList := by
  have hchars : decode s = .ok t ↔ decodeFrom .plain (unquoted s.toList) = .ok t.toList := by
    rw [decode]
    cases decodeFrom .plain (unquoted s.toList) with
    | error => simp [Except.map]
    | ok shown =>
      simp only [Except.map, Except.ok.injEq]
      exact ⟨fun h => by rw [← h, String.toList_ofList], fun h => by rw [h, String.ofList_toList]⟩
  rw [hchars, decodeFrom_plain_eq_ok_iff]
  constructor
  · exact fun h => ⟨_, bare_iff.mpr rfl, h⟩
  · rintro ⟨inner, hinner, h⟩
    rwa [bare_iff.mp hinner]

theorem Denotes.decode {s t : String} (h : Denotes Escape s.toList t.toList) :
    Text.decode s = .ok t := by
  obtain ⟨inner, hinner, hspelling⟩ := h
  exact decode_eq_ok_iff.mpr ⟨inner, hinner, hspelling.mono .inl⟩

/-- **What is decoded is what is spelled with escapes, and what is careless.** A token that denotes
a text in the notation of escapes is decoded to that text. Every text that is decoded is denoted in
the notation that is accepted, which is another one only where the token is careless. Any other
token is refused, with an error that says so. -/
theorem decode_denotes (s : String) :
    (∀ t : String, Denotes Escape s.toList t.toList → decode s = .ok t) ∧
    (∀ t : String, decode s = .ok t ↔ Denotes Accepted s.toList t.toList) ∧
    (∀ t : String, decode s = .ok t →
      (Denotes Escape s.toList t.toList ↔ ¬ ∃ inner, Bare s.toList inner ∧ Careless inner)) ∧
    ((¬ ∃ t : String, Denotes Accepted s.toList t.toList) →
      ∃ e rest, decode s = .error e ∧ e.message = "invalid escape sequence" ++ rest) := by
  refine ⟨fun t => Denotes.decode, fun t => decode_eq_ok_iff, fun t hdecode => ⟨?_, ?_⟩,
    fun hnone => ?_⟩
  · rintro ⟨inner, hinner, hspelling⟩ ⟨inner', hinner', hcareless⟩
    obtain rfl := (bare_iff.mp hinner).symm.trans (bare_iff.mp hinner')
    exact hspelling.not_careless hcareless
  · intro hcareful
    obtain ⟨inner, hinner, hspelling⟩ := decode_eq_ok_iff.mp hdecode
    rcases hspelling.escape_or_careless with hspelling | hcareless
    · exact ⟨inner, hinner, hspelling⟩
    · exact absurd ⟨inner, hinner, hcareless⟩ hcareful
  · cases hdecode : decode s with
    | ok t => exact absurd ⟨t, decode_eq_ok_iff.mp hdecode⟩ hnone
    | error e =>
      obtain ⟨rest, hmessage⟩ := e.message_begins
      exact ⟨e, rest, rfl, hmessage⟩

/-- A code point and a letter between single quotes. -/
theorem decode_denotes_caret :
    Denotes Escape "'\\u005e\\n'".toList "^\n".toList ∧ decode "'\\u005e\\n'" = .ok "^\n" := by
  have hcaret : Escape ['u', '0', '0', '5', 'e', '\\', 'n'] '^' ['\\', 'n'] :=
    @Escape.four ['0', '0', '5', 'e'] _ rfl (Numeral.digits?_sixteen_iff.mp (by decide)) _
  have hbreak : Escape ['n'] '\n' [] := .letter (by decide) []
  have hdenotes : Denotes Escape "'\\u005e\\n'".toList "^\n".toList :=
    ⟨_, .inl ⟨'\'', by decide, rfl⟩, .escape hcaret (.escape hbreak .nil)⟩
  exact ⟨hdenotes, (decode_denotes _).1 _ hdenotes⟩

/-- A code point in a brace that is not closed is decoded, and the token denotes nothing. -/
theorem decode_unclosed :
    decode "\\u\x7b41" = .ok "A" ∧
      ¬ ∃ t : String, Denotes Escape "\\u\x7b41".toList t.toList := by
  have hlax : LaxEscape ['u', '\x7b', '4', '1'] 'A' [] :=
    .unclosed (.inl (Numeral.digits?_sixteen_iff.mp (by decide)))
  constructor
  · exact decode_eq_ok_iff.mpr ⟨_, bare_iff.mpr rfl, .escape (.inr hlax) .nil⟩
  · rintro ⟨t, inner, hinner, hspelling⟩
    obtain rfl := bare_iff.mp hinner
    exact hspelling.not_careless (.here hlax)

end Graft.Text
