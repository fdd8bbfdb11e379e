import Graft.Proofs.Text.Quoted
import Graft.Patch.OfDraft
import Graft.Value.Literal

/-!
Printed texts, keys and whole numbers are read back.

A text is printed between quotes. A key that is printed bare consists of letters, numerals and
underscores, so it has neither quotes to lose nor escapes to decode. A whole number is printed
without blanks around it, as a signed word that the number rule of drafts finds again.
-/

set_option autoImplicit false

namespace Graft

/-! ## Bare keys -/

/-- What is in a bare key is a letter, a numeral or an underscore. -/
theorem mem_of_isBareKey {key : List Char} (h : isBareKey key = true) {c : Char} (hc : c ∈ key) :
    (Text.isLetter c || Text.isNumeral c || c = '_') = true := by
  match key with
  | [] => cases hc
  | first :: rest =>
    obtain ⟨hfirst, hrest⟩ := (Bool.and_eq_true _ _).mp h
    rcases List.mem_cons.mp hc with rfl | hc
    · rw [Bool.or_right_comm, hfirst, Bool.true_or]
    · exact List.all_eq_true.mp hrest c hc

theorem not_mem_of_isBareKey {key : List Char} (h : isBareKey key = true) {c : Char}
    (hc : (Text.isLetter c || Text.isNumeral c || c = '_') = false) : c ∉ key :=
  fun hmem => Bool.eq_false_iff.mp hc (mem_of_isBareKey h hmem)

theorem decode_literalKey (key : String) : Text.decode (literalKey key) = .ok key := by
  rw [literalKey]
  split
  next h =>
    exact Text.decode_of_not_mem (not_mem_of_isBareKey h (by decide))
      (not_mem_of_isBareKey h (by decide)) (not_mem_of_isBareKey h (by decide))
  next => exact Text.decode_quote key

/-! ## Whole numbers -/

namespace Text

/-- A text without blanks is not trimmed. -/
theorem trim_of_not_blank {s : String} (h : ∀ c ∈ s.toList, isBlank c = false) : trim s = s := by
  have hkept : ∀ {cs : List Char}, (∀ c ∈ cs, isBlank c = false) → cs.dropWhile isBlank = cs := by
    intro cs hcs
    match cs with
    | [] => rfl
    | c :: rest =>
      exact List.dropWhile_cons_of_neg (Bool.eq_false_iff.mp (hcs c List.mem_cons_self))
  rw [trim, hkept h, hkept fun c hc => h c (List.mem_reverse.mp hc), List.reverse_reverse,
    String.ofList_toList]

end Text

theorem numberOf?_signedDecimal (n : Int64) :
    numberOf? (Numeral.signedDecimal n.toInt) = some (.int n) := by
  have hdigits : ∀ d < 10, Text.isBlank (Nat.digitChar d) = false := by decide
  have htrim : Text.trim (Numeral.signedDecimal n.toInt) = Numeral.signedDecimal n.toInt := by
    refine Text.trim_of_not_blank fun c hc => ?_
    rcases Numeral.mem_signedDecimal hc with rfl | ⟨d, hd, rfl⟩
    · decide
    · exact hdigits d hd
  rw [numberOf?, htrim, Numeral.int64?_signedDecimal]

namespace Value

/-- **Printed texts, keys and whole numbers are read back.** The literal of a text is decoded to the
text, the literal of a key to the key, and the rule for numbers makes the literal of a whole number
a literal expression of that number, without a problem. -/
theorem literal_read_back :
    (∀ s : String, Text.decode (string s).literal = .ok s) ∧
    (∀ key : String, Text.decode (literalKey key) = .ok key) ∧
    (∀ (loc : Coordinate) (n : Int64),
      (Draft.Expr.number loc (int n).literal).read = .literal loc (.int n) ∧
      (Draft.Expr.number loc (int n).literal).problems = []) := by
  refine ⟨Text.decode_quote, decode_literalKey, fun loc n => ?_⟩
  have hnumber : numberOf? (int n).literal = some (.int n) := numberOf?_signedDecimal n
  constructor
  · rw [Draft.Expr.read, hnumber]
  · rw [Draft.Expr.problems, hnumber]

end Value

end Graft
