import Mathlib.Data.String.Basic

/-!
The bytes of a text, and its order.

In UTF-8 the first byte of a character tells how many follow, and all bytes behind the first are
digits to the base 64, the most significant first. A character of more bytes begins with a greater
byte, and among characters of as many bytes the digits decide. So a character is before another
exactly if its bytes are, whatever comes behind them, and texts are in the same order by their
bytes as by their characters.
-/

set_option autoImplicit false

namespace Graft.Text

open String

/-- The bytes of a text in UTF-8. -/
def bytes (s : String) : List UInt8 :=
  s.toUTF8.data.toList

/-- The bytes of a text are those of its characters in turn. -/
theorem bytes_eq (s : String) : bytes s = s.toList.flatMap utf8EncodeChar := by
  have hencode : s.toUTF8 = (s.toList.flatMap utf8EncodeChar).toByteArray :=
    utf8Encode_toList.symm
  rw [bytes, hencode, List.toList_data_toByteArray]

/-- **Characters.** A character before another has bytes before those of the other, whatever comes
behind. -/
theorem utf8EncodeChar_append_lt {c d : Char} (h : c < d) (x y : List UInt8) :
    utf8EncodeChar c ++ x < utf8EncodeChar d ++ y := by
  have hlt : c.val.toNat < d.val.toNat := h
  have hvalid : d.val.toNat < 0x110000 := by
    have hchar := d.valid
    simp only [UInt32.isValidChar, Nat.isValidChar] at hchar
    omega
  unfold utf8EncodeChar
  dsimp only
  -- Both characters take one to four bytes. The first byte decides, or else the digits in turn.
  split_ifs <;>
    simp only [List.cons_append, List.nil_append, List.cons_lt_cons_iff, UInt8.lt_iff_toNat_lt,
      ← UInt8.toNat_inj, UInt8.toNat_ofNat'] <;>
    simp (disch := omega) only [Nat.mod_eq_of_lt]
  all_goals omega

/-- A list of characters before another has bytes before those of the other. The induction is on
where the two differ first. -/
theorem flatMap_lt {a b : List Char} (h : a < b) :
    a.flatMap utf8EncodeChar < b.flatMap utf8EncodeChar := by
  induction (h : List.Lex (· < ·) a b) with
  | @nil c rest =>
    obtain ⟨first, others, hcons⟩ := List.exists_cons_of_ne_nil (@utf8EncodeChar_ne_nil c)
    rw [List.flatMap_cons, hcons]
    exact .nil
  | rel hlt => exact utf8EncodeChar_append_lt hlt _ _
  | cons _ ih => exact List.append_left_lt ih

/-- **Order.** Texts are in the same order by their bytes and by their characters. -/
theorem bytes_lt_iff {s t : String} : bytes s < bytes t ↔ s < t := by
  have hforward : ∀ {s t : String}, s < t → bytes s < bytes t := by
    intro s t h
    rw [bytes_eq, bytes_eq]
    exact flatMap_lt (lt_iff_toList_lt.mp h)
  refine ⟨fun h => ?_, hforward⟩
  -- Otherwise the two were the same, or in the opposite order.
  rcases lt_trichotomy s t with hlt | rfl | hgt
  · exact hlt
  · exact absurd h (List.lt_irrefl _)
  · exact absurd h (List.lt_asymm (hforward hgt))

theorem bytes_le_iff {s t : String} : bytes s ≤ bytes t ↔ s ≤ t := by
  rw [← List.not_lt, bytes_lt_iff, not_lt]

end Graft.Text
