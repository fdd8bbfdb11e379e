import Graft.Proofs.Run.Trap

/-!
Operators on whole numbers.

A word of 64 bits stands for a whole number, and what an operator gives for two words is said about
these numbers. A sum, a difference, a product and an opposite are exact where some word has the
value, and an overflow where none has. A quotient is a word only if it is whole, and a double
otherwise; a remainder has the sign of the dividend. There is one pair of words whose quotient is
whole and in no word, and there the quotient has no outcome: it traps.

Each outcome is given by a relation that says under which condition it is which, and the operators
are shown to be these relations.
-/

set_option autoImplicit false

namespace Graft

/-! ## Words and their values -/

theorem int64OfInt?_eq_some_iff {n : Int} {w : Int64} :
    int64OfInt? n = some w ↔ w.toInt = n := by
  unfold int64OfInt? Numeral.isSigned
  constructor
  · intro h
    split at h
    · rename_i hn
      rw [Bool.and_eq_true, decide_eq_true_eq, decide_eq_true_eq] at hn
      rw [← Option.some.inj h]
      exact Int64.toInt_ofInt_of_le hn.1 hn.2
    · cases h
  · rintro rfl
    have hleast : -(Numeral.signedBound : Int) ≤ w.toInt := w.le_toInt
    have hbelow : w.toInt < Numeral.signedBound := w.toInt_lt
    rw [if_pos (by simp [hleast, hbelow]), Int64.ofInt_toInt]

theorem int64OfInt?_eq_none_iff {n : Int} :
    int64OfInt? n = none ↔ ∀ w : Int64, w.toInt ≠ n := by
  rw [Option.eq_none_iff_forall_ne_some]
  exact forall_congr' fun w => not_congr int64OfInt?_eq_some_iff

/-- A number in range is the value of a word. -/
theorem exists_toInt_eq {n : Int} (hleast : -0x8000000000000000 ≤ n)
    (hbelow : n < 0x8000000000000000) : ∃ w : Int64, w.toInt = n :=
  ⟨Int64.ofInt n, Int64.toInt_ofInt_of_le hleast hbelow⟩

/-- An exact quotient of two words is the value of a word, but for the opposite of the least. -/
theorem exists_toInt_eq_quotient {a b : Int64} {q : Int} (hb : b.toInt ≠ 0)
    (hq : q * b.toInt = a.toInt) (h : ¬ (a = Int64.minValue ∧ b = -1)) :
    ∃ w : Int64, w.toInt = q := by
  have hleast := a.le_toInt
  have hbelow := a.toInt_lt
  -- A factor is no larger than the product.
  have habs : q.natAbs ≤ a.toInt.natAbs := by
    rw [← hq, Int.natAbs_mul]
    exact Nat.le_mul_of_pos_right _ (Int.natAbs_pos.mpr hb)
  by_cases htop : q = 2 ^ 63
  · have hone : b.toInt = -1 := by
      rw [htop] at hq
      omega
    refine absurd ⟨?_, ?_⟩ h
    · rw [← Int64.toInt_inj, Int64.toInt_minValue, ← hq, htop, hone]
      rfl
    · rw [← Int64.toInt_inj, hone]
      rfl
  · exact exists_toInt_eq (by omega) (by omega)

/-- A remainder is no larger than the dividend, so it is the value of a word. -/
theorem exists_toInt_eq_tmod (a b : Int64) : ∃ w : Int64, w.toInt = a.toInt.tmod b.toInt := by
  have hleast := a.le_toInt
  have hbelow := a.toInt_lt
  have habs : (a.toInt.tmod b.toInt).natAbs ≤ a.toInt.natAbs := by
    rw [Int.natAbs_tmod]
    exact Nat.mod_le _ _
  by_cases hsign : 0 ≤ a.toInt
  · have hnonneg := Int.tmod_nonneg b.toInt hsign
    exact exists_toInt_eq (by omega) (by omega)
  · have hnonpos : 0 ≤ (-a.toInt).tmod b.toInt := Int.tmod_nonneg b.toInt (by omega)
    rw [Int.neg_tmod] at hnonpos
    exact exists_toInt_eq (by omega) (by omega)

namespace Value

/-! ## Exact outcomes -/

/-- The outcome of an operator whose result is the whole number `n`: the word of that value, or an
error where no word has it. -/
inductive IsExact (n : Int) (e : OperatorError) : Except OperatorError Value → Prop where
  | fits (w : Int64) (h : w.toInt = n) : IsExact n e (.ok (int w))
  | outside (h : ∀ w : Int64, w.toInt ≠ n) : IsExact n e (.error e)

theorem IsExact.unique {n : Int} {e : OperatorError} {r r' : Except OperatorError Value}
    (h : IsExact n e r) (h' : IsExact n e r') : r = r' := by
  cases h with
  | fits w hw =>
    cases h' with
    | fits w' hw' => rw [Int64.toInt_inj.mp (hw.trans hw'.symm)]
    | outside hnone => exact absurd hw (hnone w)
  | outside hnone =>
    cases h' with
    | fits w hw => exact absurd hw (hnone w)
    | outside => rfl

theorem isExact_exactly (op : BinaryOp) (a b : Int64) (n : Int) :
    IsExact n (.overflow op a b) (exactly op a b n) := by
  unfold exactly
  split
  · rename_i w hw
    exact .fits w (int64OfInt?_eq_some_iff.mp hw)
  · rename_i hnone
    exact .outside (int64OfInt?_eq_none_iff.mp hnone)

theorem isExact_negate (a : Int64) :
    IsExact (-a.toInt) (.negateOverflow a) (unary .negate (int a)) := by
  simp only [unary]
  split
  · rename_i w hw
    exact .fits w (int64OfInt?_eq_some_iff.mp hw)
  · rename_i hnone
    exact .outside (int64OfInt?_eq_none_iff.mp hnone)

/-- Only the least word has no opposite. -/
theorem negate_eq_overflow_iff {a : Int64} :
    unary .negate (int a) = .error (.negateOverflow a) ↔ a = Int64.minValue := by
  have hleast := a.le_toInt
  have hbelow := a.toInt_lt
  constructor
  · intro h
    have hoverflow := isExact_negate a
    rw [h] at hoverflow
    cases hoverflow with
    | outside hnone =>
      rw [← Int64.toInt_inj, Int64.toInt_minValue]
      by_contra hne
      obtain ⟨w, hw⟩ := exists_toInt_eq (n := -a.toInt) (by omega) (by omega)
      exact hnone w hw
  · rintro rfl
    rfl

/-- The test for the least word and -1, as it is made of their values. -/
theorem least_minusOne_iff {a b : Int64} :
    (decide (a.toInt = -(Numeral.signedBound : Int)) && decide (b.toInt = -1)) = true ↔
      a = Int64.minValue ∧ b = -1 := by
  have hone : (-1 : Int64).toInt = -1 := by decide
  rw [Bool.and_eq_true, decide_eq_true_eq, decide_eq_true_eq, ← Int64.toInt_inj, ← Int64.toInt_inj,
    Int64.toInt_minValue, hone]
  exact Iff.rfl

/-! ## Quotients -/

/-- The outcome of a quotient. -/
inductive IsQuotient (a b : Int64) : Except OperatorError Value → Prop where
  | byZero (hb : b = 0) : IsQuotient a b (.error .divisionByZero)
  /-- The divisor divides, and a word has the value of the quotient. -/
  | whole (hb : b ≠ 0) (q : Int64) (hq : q.toInt * b.toInt = a.toInt) : IsQuotient a b (.ok (int q))
  /-- The divisor does not divide. -/
  | broken (hb : b ≠ 0) (h : ¬ b.toInt ∣ a.toInt) :
    IsQuotient a b (.ok (float (a.toFloat / b.toFloat)))
  /-- The divisor divides, and no word has the value of the quotient. -/
  | outside (hb : b ≠ 0) (h : b.toInt ∣ a.toInt)
    (hnone : ∀ q : Int64, q.toInt * b.toInt ≠ a.toInt) : IsQuotient a b (.error .trap)

theorem toInt_ne_zero {b : Int64} (hb : b ≠ 0) : b.toInt ≠ 0 := by
  intro hzero
  exact hb (Int64.toInt_inj.mp hzero)

theorem IsQuotient.unique {a b : Int64} {r r' : Except OperatorError Value}
    (h : IsQuotient a b r) (h' : IsQuotient a b r') : r = r' := by
  cases h with
  | byZero hb =>
    cases h' with
    | byZero => rfl
    | whole hb' | broken hb' | outside hb' => exact absurd hb hb'
  | whole hb q hq =>
    cases h' with
    | byZero hb' => exact absurd hb' hb
    | whole _ q' hq' =>
      have hsame := Int.eq_of_mul_eq_mul_right (toInt_ne_zero hb) (hq.trans hq'.symm)
      rw [Int64.toInt_inj.mp hsame]
    | broken _ hnot => exact absurd ⟨q.toInt, by rw [Int.mul_comm, hq]⟩ hnot
    | outside _ _ hnone => exact absurd hq (hnone q)
  | broken hb hnot =>
    cases h' with
    | byZero hb' => exact absurd hb' hb
    | whole _ q hq => exact absurd ⟨q.toInt, by rw [Int.mul_comm, hq]⟩ hnot
    | broken => rfl
    | outside _ hdvd => exact absurd hdvd hnot
  | outside hb hdvd hnone =>
    cases h' with
    | byZero hb' => exact absurd hb' hb
    | whole _ q hq => exact absurd hq (hnone q)
    | broken _ hnot => exact absurd hdvd hnot
    | outside => rfl

/-- The opposite of the least word is whole, and in no word. -/
theorem isQuotient_least : IsQuotient Int64.minValue (-1) (.error .trap) := by
  refine .outside (by decide) ⟨2 ^ 63, by decide⟩ fun q hq => ?_
  have hbelow := q.toInt_lt
  have hone : (-1 : Int64).toInt = -1 := by decide
  rw [hone, Int64.toInt_minValue] at hq
  omega

theorem isQuotient_divide (a b : Int64) : IsQuotient a b (integerArithmetic .divide a b) := by
  by_cases hb : b = 0
  · rw [hb]
    exact .byZero rfl
  have hzero := toInt_ne_zero hb
  by_cases htraps : a = Int64.minValue ∧ b = -1
  · obtain ⟨rfl, rfl⟩ := htraps
    exact isQuotient_least
  simp only [integerArithmetic]
  rw [if_neg hzero, if_neg (mt least_minusOne_iff.mp htraps)]
  by_cases hdvd : b.toInt ∣ a.toInt
  · obtain ⟨q, hq⟩ := hdvd
    have hquotient : q * b.toInt = a.toInt := by rw [hq, Int.mul_comm]
    obtain ⟨w, rfl⟩ := exists_toInt_eq_quotient hzero hquotient htraps
    have hexact : a.toInt.tdiv b.toInt = w.toInt := by
      rw [hq, Int.mul_tdiv_cancel_left _ hzero]
    have hnothing : a.toInt.tmod b.toInt = 0 := by rw [hq, Int.mul_tmod_right]
    have hword : int64OfInt? w.toInt = some w := int64OfInt?_eq_some_iff.mpr rfl
    rw [if_neg (not_not.mpr hnothing), hexact, exactly, hword]
    exact .whole hb w hquotient
  · rw [if_pos fun hrest => hdvd (Int.dvd_of_tmod_eq_zero hrest)]
    exact .broken hb hdvd

/-! ## Remainders -/

/-- The outcome of a remainder. -/
inductive IsRemainder (a b : Int64) : Except OperatorError Value → Prop where
  | byZero (hb : b = 0) : IsRemainder a b (.error .divisionByZero)
  /-- The remainder of the least word by -1 counts as an overflow, although it would be zero. -/
  | least (ha : a = Int64.minValue) (hb : b = -1) :
    IsRemainder a b (.error (.overflow .modulo a b))
  /-- The remainder that truncated division leaves. -/
  | truncated (hb : b ≠ 0) (h : ¬ (a = Int64.minValue ∧ b = -1)) (w : Int64)
    (hw : w.toInt = a.toInt.tmod b.toInt) : IsRemainder a b (.ok (int w))

theorem IsRemainder.unique {a b : Int64} {r r' : Except OperatorError Value}
    (h : IsRemainder a b r) (h' : IsRemainder a b r') : r = r' := by
  have hzero : ¬ (-1 : Int64) = 0 := by decide
  cases h with
  | byZero hb =>
    cases h' with
    | byZero => rfl
    | least _ hb' => exact absurd (hb'.symm.trans hb) hzero
    | truncated hb' => exact absurd hb hb'
  | least ha hb =>
    cases h' with
    | byZero hb' => exact absurd (hb.symm.trans hb') hzero
    | least => rfl
    | truncated _ hnot => exact absurd ⟨ha, hb⟩ hnot
  | truncated hb hnot w hw =>
    cases h' with
    | byZero hb' => exact absurd hb' hb
    | least ha' hb' => exact absurd ⟨ha', hb'⟩ hnot
    | truncated _ _ w' hw' => rw [Int64.toInt_inj.mp (hw.trans hw'.symm)]

theorem isRemainder_modulo (a b : Int64) : IsRemainder a b (integerArithmetic .modulo a b) := by
  by_cases hb : b = 0
  · rw [hb]
    exact .byZero rfl
  by_cases hleast : a = Int64.minValue ∧ b = -1
  · obtain ⟨rfl, rfl⟩ := hleast
    exact .least rfl rfl
  obtain ⟨w, hw⟩ := exists_toInt_eq_tmod a b
  have hword : int64OfInt? (a.toInt.tmod b.toInt) = some w := int64OfInt?_eq_some_iff.mpr hw
  simp only [integerArithmetic]
  rw [if_neg (toInt_ne_zero hb), if_neg (mt least_minusOne_iff.mp hleast), exactly, hword]
  exact .truncated hb hleast w hw

/-! ## The operators -/

/-- **Whole numbers are computed exactly, or the operator fails.** Sums, differences, products and
opposites are the word of the exact value, and an overflow exactly where no word has it; so only the
least word has no opposite. Quotients and remainders are what `IsQuotient` and `IsRemainder` say.
Every operator has an outcome for two words, with one exception: the quotient of the least word by
-1, which is whole and in no word, traps. -/
theorem integers_exact (a b : Int64) (r : Except OperatorError Value) :
    (binary .add (int a) (int b) = r ↔ IsExact (a.toInt + b.toInt) (.overflow .add a b) r) ∧
    (binary .subtract (int a) (int b) = r ↔
      IsExact (a.toInt - b.toInt) (.overflow .subtract a b) r) ∧
    (binary .multiply (int a) (int b) = r ↔
      IsExact (a.toInt * b.toInt) (.overflow .multiply a b) r) ∧
    (binary .divide (int a) (int b) = r ↔ IsQuotient a b r) ∧
    (binary .modulo (int a) (int b) = r ↔ IsRemainder a b r) ∧
    (unary .negate (int a) = r ↔ IsExact (-a.toInt) (.negateOverflow a) r) ∧
    (unary .negate (int a) = .error (.negateOverflow a) ↔ a = Int64.minValue) ∧
    ∀ op, binary op (int a) (int b) = .error .trap ↔
      op = .divide ∧ a = Int64.minValue ∧ b = -1 := by
  refine ⟨?_, ?_, ?_, ?_, ?_, ?_, negate_eq_overflow_iff, fun op => ?_⟩
  · exact ⟨fun h => h ▸ isExact_exactly .add a b _, (isExact_exactly .add a b _).unique⟩
  · exact ⟨fun h => h ▸ isExact_exactly .subtract a b _, (isExact_exactly .subtract a b _).unique⟩
  · exact ⟨fun h => h ▸ isExact_exactly .multiply a b _, (isExact_exactly .multiply a b _).unique⟩
  · exact ⟨fun h => h ▸ isQuotient_divide a b, (isQuotient_divide a b).unique⟩
  · exact ⟨fun h => h ▸ isRemainder_modulo a b, (isRemainder_modulo a b).unique⟩
  · exact ⟨fun h => h ▸ isExact_negate a, (isExact_negate a).unique⟩
  · rw [binary_eq_trap_iff, DividesLeast]
    simp only [int.injEq]

/-- The quotient of the least word by -1 is whole and in no word, and it is no overflow. -/
theorem least_divide_minusOne :
    let a := Int64.minValue
    let b : Int64 := -1
    b ≠ 0 ∧ b.toInt ∣ a.toInt ∧ (∀ q : Int64, q.toInt * b.toInt ≠ a.toInt) ∧
      binary .divide (int a) (int b) = .error .trap ∧
      binary .divide (int a) (int b) ≠ .error (.overflow .divide a b) := by
  intro a b
  have htraps : binary .divide (int a) (int b) = .error .trap := rfl
  cases isQuotient_least with
  | outside hb hdvd hnone => exact ⟨hb, hdvd, hnone, htraps, by rw [htraps]; nofun⟩

end Value

end Graft
