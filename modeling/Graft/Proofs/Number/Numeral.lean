import Mathlib.Data.List.Forall2
import Graft.Number.Numeral

/-!
Reading the numbers that are written.

Digits are read from the most significant one on, and written from the least significant one on.
The two meet at every digit: what is still to be written of a number and the digits that are
written already are read as the number. So a number is read from its own digits, in any radix up to
sixteen and with any padding, and a whole number of 64 bits from its decimal text.

Which texts are read as hexadecimal numbers is said without the reader by `Hexadecimal`.
-/

set_option autoImplicit false

namespace Graft.Numeral

/-! ## Digits -/

theorem digit?_digitChar {radix d : Nat} (hradix : radix ≤ 16) (hd : d < radix) :
    digit? radix (Nat.digitChar d) = some d := by
  have hall : ∀ radix ≤ 16, ∀ d < radix, digit? radix (Nat.digitChar d) = some d := by decide
  exact hall radix hradix d hd

theorem digits?_eq_some {radix n : Nat} {cs : List Char} (h : digits? radix cs = some n) :
    cs ≠ [] ∧ foldDigits? radix 0 cs = some n := by
  rw [digits?] at h
  split at h
  · cases h
  · rename_i hcs
    exact ⟨fun he => hcs (List.isEmpty_iff.mpr he), h⟩

theorem digits?_of_ne_nil {radix : Nat} {cs : List Char} (h : cs ≠ []) :
    digits? radix cs = foldDigits? radix 0 cs := by
  rw [digits?, if_neg (by rwa [List.isEmpty_iff])]

/-! ## Hexadecimal numbers -/

/-- A hexadecimal digit and its value. Letters count in either case. -/
def HexDigit (c : Char) (value : Nat) : Prop :=
  value < 16 ∧ (c = value.digitChar ∨ c = value.digitChar.toUpper)

/-- Digits that are a number in hexadecimal notation. There is at least one of them, and the most
significant one is the first. -/
def Hexadecimal (digits : List Char) (n : Nat) : Prop :=
  digits ≠ [] ∧ ∃ values, List.Forall₂ HexDigit digits values ∧
    values.foldl (fun n value => 16 * n + value) 0 = n

/-- A character between two others that is read as the digit of its distance from the first. -/
theorem eq_of_distance {c first : Char} {offset value : Nat} (hle : first ≤ c)
    (h : c.toNat - first.toNat + offset = value) {d : Char}
    (hd : d.toNat + offset = first.toNat + value) : c = d := by
  have hfirst : first.toNat ≤ c.toNat := hle
  exact Char.toNat_inj.mp (by omega)

theorem digit?_sixteen_iff {c : Char} {value : Nat} :
    digit? 16 c = some value ↔ HexDigit c value := by
  constructor
  · intro h
    have hdecimal : ∀ v < 10, (Nat.digitChar v).toNat + 0 = '0'.toNat + v := by decide
    have hlower : ∀ v < 16, 10 ≤ v → (Nat.digitChar v).toNat + 10 = 'a'.toNat + v := by decide
    have hupper : ∀ v < 16, 10 ≤ v →
        (Nat.digitChar v).toUpper.toNat + 10 = 'A'.toNat + v := by decide
    unfold digit? at h
    split at h
    next hrange =>
      obtain ⟨hless, hvalue⟩ := Option.ite_none_right_eq_some.mp h
      rw [Bool.and_eq_true, decide_eq_true_eq, decide_eq_true_eq] at hrange
      have hlast : c.toNat ≤ '9'.toNat := hrange.2
      have hvalue := Option.some.inj hvalue
      have hten : value < 10 := by
        change c.toNat ≤ 57 at hlast
        change c.toNat - 48 = value at hvalue
        omega
      exact ⟨by omega, .inl (eq_of_distance hrange.1 hvalue (hdecimal value hten))⟩
    next =>
      split at h
      next hrange =>
        obtain ⟨hless, hvalue⟩ := Option.ite_none_right_eq_some.mp h
        rw [Bool.and_eq_true, decide_eq_true_eq] at hrange
        have hvalue := Option.some.inj hvalue
        have hlower := hlower value (by omega) (by omega)
        exact ⟨by omega, .inl (eq_of_distance hrange.1 hvalue hlower)⟩
      next =>
        split at h
        next hrange =>
          obtain ⟨hless, hvalue⟩ := Option.ite_none_right_eq_some.mp h
          rw [Bool.and_eq_true, decide_eq_true_eq] at hrange
          have hvalue := Option.some.inj hvalue
          have hupper := hupper value (by omega) (by omega)
          exact ⟨by omega, .inr (eq_of_distance hrange.1 hvalue hupper)⟩
        next => cases h
  · rintro ⟨hvalue, rfl | rfl⟩
    · exact digit?_digitChar (Nat.le_refl 16) hvalue
    · have hall : ∀ v < 16, digit? 16 v.digitChar.toUpper = some v := by decide
      exact hall value hvalue

theorem foldDigits?_sixteen_iff {digits : List Char} :
    ∀ {acc n : Nat}, foldDigits? 16 acc digits = some n ↔
      ∃ values, List.Forall₂ HexDigit digits values ∧
        values.foldl (fun n value => 16 * n + value) acc = n := by
  induction digits with
  | nil =>
    intro acc n
    rw [foldDigits?, Option.some_inj]
    exact ⟨fun h => ⟨[], .nil, h⟩, fun ⟨_, hvalues, h⟩ => by cases hvalues; exact h⟩
  | cons c rest ih =>
    intro acc n
    rw [foldDigits?, Option.bind_eq_some_iff]
    constructor
    · rintro ⟨v, hv, hrest⟩
      obtain ⟨values, hvalues, hn⟩ := ih.mp hrest
      refine ⟨v :: values, .cons (digit?_sixteen_iff.mp hv) hvalues, ?_⟩
      rw [List.foldl_cons, Nat.mul_comm]
      exact hn
    · rintro ⟨_, hvalues, hn⟩
      cases hvalues with
      | cons hv hvalues =>
        refine ⟨_, digit?_sixteen_iff.mpr hv, ih.mpr ⟨_, hvalues, ?_⟩⟩
        rw [List.foldl_cons, Nat.mul_comm] at hn
        exact hn

/-- What is read as a hexadecimal number is one. -/
theorem digits?_sixteen_iff {digits : List Char} {n : Nat} :
    digits? 16 digits = some n ↔ Hexadecimal digits n := by
  constructor
  · intro h
    obtain ⟨hne, hfold⟩ := digits?_eq_some h
    exact ⟨hne, foldDigits?_sixteen_iff.mp hfold⟩
  · rintro ⟨hne, hvalues⟩
    rw [digits?_of_ne_nil hne]
    exact foldDigits?_sixteen_iff.mpr hvalues

/-- A character of a hexadecimal number is a digit or one of six letters, in either case. -/
theorem Hexadecimal.mem {digits : List Char} {n : Nat} (h : Hexadecimal digits n) {c : Char}
    (hc : c ∈ digits) : c ∈ "0123456789abcdefABCDEF".toList := by
  obtain ⟨_, values, hvalues, _⟩ := h
  have hdigit : ∃ value, HexDigit c value := by
    clear * - hvalues hc
    induction hvalues with
    | nil => cases hc
    | cons hd _ ih =>
      rcases List.mem_cons.mp hc with rfl | hc
      · exact ⟨_, hd⟩
      · exact ih hc
  obtain ⟨value, hless, rfl | rfl⟩ := hdigit
  · have hall : ∀ v < 16, v.digitChar ∈ "0123456789abcdefABCDEF".toList := by decide
    exact hall value hless
  · have hall : ∀ v < 16, v.digitChar.toUpper ∈ "0123456789abcdefABCDEF".toList := by decide
    exact hall value hless

/-! ## Reading what is written -/

section

variable {radix : Nat} (hradix : 2 ≤ radix ∧ radix ≤ 16)
include hradix

/-- What is still to be written of a number, and the digits behind it, are read as the number and
these digits. -/
theorem foldDigits?_digitsWithin (steps : Nat) :
    ∀ {n : Nat} (acc : List Char), n < Nat.pow 2 steps →
      foldDigits? radix 0 (digitsWithin radix steps n acc) = foldDigits? radix n acc := by
  induction steps with
  | zero =>
    intro n acc hn
    obtain rfl : n = 0 := Nat.lt_one_iff.mp hn
    rfl
  | succ steps ih =>
    intro n acc hn
    rw [digitsWithin]
    split
    next hzero => rw [hzero]
    next =>
      have hdigit : n % radix < radix := Nat.mod_lt n (by omega)
      -- Every digit takes at least one bit.
      have hless : n / radix < Nat.pow 2 steps := by
        have hpow : Nat.pow 2 (steps + 1) = Nat.pow 2 steps * 2 := rfl
        have hhalf : n / radix ≤ n / 2 := Nat.div_le_div_left hradix.1 (by decide)
        omega
      rw [ih _ hless, foldDigits?, digit?_digitChar hradix.2 hdigit, Option.bind_some,
        Nat.mul_comm, Nat.div_add_mod]

omit hradix in
/-- Padding does not count. -/
theorem foldDigits?_zeros (hpositive : 0 < radix) (k : Nat) (cs : List Char) :
    foldDigits? radix 0 (List.replicate k '0' ++ cs) = foldDigits? radix 0 cs := by
  have hzero : digit? radix '0' = some 0 := if_pos hpositive
  induction k with
  | zero => rfl
  | succ k ih =>
    rw [List.replicate_succ, List.cons_append, foldDigits?, hzero, Option.bind_some, Nat.zero_mul]
    exact ih

/-- **A number is read from its digits.** -/
theorem digits?_padded {width : Nat} (hwidth : 0 < width) (n : Nat) :
    digits? radix (padded radix width n) = some n := by
  have hne : padded radix width n ≠ [] := by
    intro hnil
    have hlength := congrArg List.length hnil
    rw [padded, List.length_append, List.length_replicate, List.length_nil] at hlength
    omega
  rw [digits?_of_ne_nil hne, padded, foldDigits?_zeros (by omega),
    foldDigits?_digitsWithin hradix _ [] Nat.lt_log2_self]
  rfl

end

/-- The characters that are written are digits. -/
theorem mem_digitsWithin {radix : Nat} (hradix : 0 < radix) {c : Char} (steps : Nat) :
    ∀ {n : Nat} {acc : List Char}, c ∈ digitsWithin radix steps n acc →
      c ∈ acc ∨ ∃ d < radix, c = Nat.digitChar d := by
  induction steps with
  | zero => exact fun h => .inl h
  | succ steps ih =>
    intro n acc h
    rw [digitsWithin] at h
    split at h
    next => exact .inl h
    next =>
      rcases ih h with h | h
      · rcases List.mem_cons.mp h with rfl | h
        · exact .inr ⟨_, Nat.mod_lt n hradix, rfl⟩
        · exact .inl h
      · exact .inr h

theorem mem_padded {radix : Nat} (hradix : 0 < radix) {width n : Nat} {c : Char}
    (h : c ∈ padded radix width n) : ∃ d < radix, c = Nat.digitChar d := by
  rw [padded, List.mem_append] at h
  rcases h with h | h
  · exact ⟨0, hradix, (List.mem_replicate.mp h).2⟩
  · rcases mem_digitsWithin hradix _ h with h | h
    · cases h
    · exact h

/-! ## Signs -/

theorem digits?_plus (radix : Nat) (rest : List Char) : digits? radix ('+' :: rest) = none := by
  have hnone : digit? radix '+' = none := if_neg (Nat.lt_irrefl radix)
  rw [digits?_of_ne_nil (List.cons_ne_nil _ _), foldDigits?, hnone, Option.bind_none]

/-- A number in range is what has only digits, with or without a plus sign before them. -/
theorem unsigned?_eq_some_iff {radix bound n : Nat} {cs : List Char} :
    unsigned? radix bound cs = some n ↔
      n < bound ∧ (digits? radix cs = some n ∨
        ∃ rest, cs = '+' :: rest ∧ digits? radix rest = some n) := by
  unfold unsigned?
  split
  next rest =>
    rw [Option.filter_eq_some_iff, decide_eq_true_eq, digits?_plus]
    constructor
    · rintro ⟨h, hn⟩
      exact ⟨hn, .inr ⟨rest, rfl, h⟩⟩
    · rintro ⟨hn, h | ⟨_, he, h⟩⟩
      · cases h
      · cases he
        exact ⟨h, hn⟩
  next hplus =>
    rw [Option.filter_eq_some_iff, decide_eq_true_eq]
    constructor
    · rintro ⟨h, hn⟩
      exact ⟨hn, .inl h⟩
    · rintro ⟨hn, h | ⟨rest, he, _⟩⟩
      · exact ⟨h, hn⟩
      · exact absurd he (hplus rest)

/-! ## Decimal texts -/

theorem digits?_decimal (n : Nat) : digits? 10 (decimal n).toList = some n := by
  rw [decimal, String.toList_ofList]
  exact digits?_padded (by decide) Nat.one_pos n

/-- A decimal text begins with a digit. -/
theorem decimal_cons (n : Nat) :
    ∃ d < 10, ∃ rest, (decimal n).toList = Nat.digitChar d :: rest := by
  have hne := (digits?_eq_some (digits?_decimal n)).1
  obtain ⟨c, rest, hcons⟩ := List.exists_cons_of_ne_nil hne
  have hmem : c ∈ padded 10 1 n := by
    have hpadded : (decimal n).toList = padded 10 1 n := String.toList_ofList
    rw [← hpadded, hcons]
    exact List.mem_cons_self
  obtain ⟨d, hd, rfl⟩ := mem_padded (by decide) hmem
  exact ⟨d, hd, rest, hcons⟩

/-- The characters of a decimal text with a sign. -/
theorem toList_signedDecimal (n : Int) :
    (signedDecimal n).toList =
      (if n < 0 then ['-'] else []) ++ (decimal n.natAbs).toList := by
  rw [signedDecimal]
  split
  · rw [String.toList_append]
    rfl
  · rfl

/-- A decimal text has digits only, and the sign. -/
theorem mem_signedDecimal {n : Int} {c : Char} (h : c ∈ (signedDecimal n).toList) :
    c = '-' ∨ ∃ d < 10, c = Nat.digitChar d := by
  rw [toList_signedDecimal, List.mem_append] at h
  rcases h with h | h
  · split at h
    · exact .inl (List.mem_singleton.mp h)
    · cases h
  · rw [decimal, String.toList_ofList] at h
    exact .inr (mem_padded (by decide) h)

/-- **A whole number of 64 bits is read from its decimal text.** -/
theorem int64?_signedDecimal (n : Int64) :
    int64? (signedDecimal n.toInt).toList = some n := by
  have hleast : -(signedBound : Int) ≤ n.toInt := n.le_toInt
  have hbelow : n.toInt < signedBound := n.toInt_lt
  have hread := digits?_decimal n.toInt.natAbs
  rw [toList_signedDecimal]
  split
  next hnegative =>
    have hsigned : -((n.toInt.natAbs : Nat) : Int) = n.toInt := by omega
    rw [List.singleton_append, int64?, hread, Option.filter_some,
      if_pos (decide_eq_true (by omega))]
    show some (Int64.ofInt (-((n.toInt.natAbs : Nat) : Int))) = some n
    rw [hsigned, Int64.ofInt_toInt]
  next hnegative =>
    have hsigned : ((n.toInt.natAbs : Nat) : Int) = n.toInt := by omega
    have hunsigned := unsigned?_eq_some_iff.mpr
      ⟨(by omega : n.toInt.natAbs < signedBound), .inl hread⟩
    obtain ⟨d, hd, rest, hcons⟩ := decimal_cons n.toInt.natAbs
    have hminus : ∀ d < 10, Nat.digitChar d ≠ '-' := by decide
    rw [List.nil_append, int64?, hunsigned]
    · show some (Int64.ofInt ((n.toInt.natAbs : Nat) : Int)) = some n
      rw [hsigned, Int64.ofInt_toInt]
    · rintro rest' he
      rw [hcons] at he
      exact hminus d hd (List.cons.inj he).1

end Graft.Numeral
