import Graft.Proofs.Text.Escape

/-!
What is quoted is read back.

A character that is quoted stands for itself or is an escape of itself. So what is between the
quotes is a spelling of the text, and decoding gives the text again. A text without quotes and
backslashes is decoded to itself even without quotes around it.

An escape shows where it ends, and so does the closing quote, since no other quote stands without a
backslash: two quoted texts that agree are the same text, whatever follows them.
-/

set_option autoImplicit false

namespace Graft.Text

/-- A quoted character stands for itself, or is an escape of itself, whatever follows. -/
theorem encodeChar_cases (c : Char) :
    (c ≠ '\\' ∧ c ≠ '"' ∧ encodeChar c = [c]) ∨
      ∃ escape, encodeChar c = '\\' :: escape ∧ ∀ rest, Escape (escape ++ rest) c rest := by
  have hletter : ∀ {e d}, (e, d) ∈ escapeLetters → ∀ rest, Escape ([e] ++ rest) d rest :=
    fun h rest => .letter h rest
  unfold encodeChar
  split_ifs with hquote hbackslash hline hreturn htab hcontrol
  · exact .inr ⟨_, rfl, hletter (by rw [hquote]; decide)⟩
  · exact .inr ⟨_, rfl, hletter (by rw [hbackslash]; decide)⟩
  · exact .inr ⟨_, rfl, hletter (by rw [hline]; decide)⟩
  · exact .inr ⟨_, rfl, hletter (by rw [hreturn]; decide)⟩
  · exact .inr ⟨_, rfl, hletter (by rw [htab]; decide)⟩
  · have hdigits : Numeral.Hexadecimal (Numeral.padded 16 4 c.toNat) c.toNat :=
      Numeral.digits?_sixteen_iff.mp (Numeral.digits?_padded (by decide) (by decide) _)
    refine .inr ⟨'u' :: '{' :: (Numeral.padded 16 4 c.toNat ++ ['}']), rfl, fun rest => ?_⟩
    rw [List.cons_append, List.cons_append, List.append_assoc]
    exact .braced hdigits rest
  · exact .inl ⟨hbackslash, hquote, rfl⟩

theorem spelling_encode (cs : List Char) : Spelling Escape (cs.flatMap encodeChar) cs := by
  induction cs with
  | nil => exact .nil
  | cons c rest ih =>
    rw [List.flatMap_cons]
    rcases encodeChar_cases c with ⟨hc, -, he⟩ | ⟨escape, he, hescape⟩
    · rw [he]
      exact .plain hc ih
    · rw [he]
      exact .escape (hescape _) ih

theorem toList_quote (s : String) :
    (quote s).toList = '"' :: (s.toList.flatMap encodeChar ++ ['"']) :=
  String.toList_ofList

/-- **A quoted text is decoded to the text.** -/
theorem decode_quote (s : String) : decode (quote s) = .ok s :=
  Denotes.decode ⟨_, .inl ⟨'"', by decide, toList_quote s⟩, spelling_encode s.toList⟩

/-! ## Texts that need no quotes -/

/-- Without a backslash, everything stands for itself. -/
theorem spelling_of_not_mem {cs : List Char} (h : '\\' ∉ cs) : Spelling Escape cs cs := by
  induction cs with
  | nil => exact .nil
  | cons c rest ih =>
    rw [List.mem_cons, not_or] at h
    exact .plain (Ne.symm h.1) (ih h.2)

/-- A text without quotes and backslashes is decoded to itself. -/
theorem decode_of_not_mem {s : String} (hdouble : '"' ∉ s.toList) (hsingle : '\'' ∉ s.toList)
    (hbackslash : '\\' ∉ s.toList) : decode s = .ok s := by
  refine Denotes.decode ⟨_, .inr ⟨rfl, fun q hq other he => ?_⟩, spelling_of_not_mem hbackslash⟩
  have hmem : q ∈ s.toList := he ▸ List.mem_cons_self
  simp only [List.mem_cons, List.not_mem_nil, or_false] at hq
  rcases hq with rfl | rfl
  · exact hdouble hmem
  · exact hsingle hmem

/-! ## Where a quoted text ends -/

/-- A quoted text begins with a quote. -/
theorem quote_append_ne (s : String) {c : Char} (hc : c ≠ '"') (x y : List Char) :
    (quote s).toList ++ x ≠ c :: y := by
  rw [toList_quote, List.cons_append]
  exact fun he => hc (List.cons.inj he).1.symm

/-- A quoted character does not begin with a quote. -/
theorem encodeChar_append_ne (c : Char) (x y : List Char) : encodeChar c ++ x ≠ '"' :: y := by
  intro h
  rcases encodeChar_cases c with ⟨-, hquote, he⟩ | ⟨escape, he, -⟩
  · rw [he] at h
    exact hquote (List.cons.inj h).1
  · rw [he] at h
    exact absurd (List.cons.inj h).1 (by decide)

theorem encodeChar_append_inj {c d : Char} {x y : List Char}
    (h : encodeChar c ++ x = encodeChar d ++ y) : c = d ∧ x = y := by
  rcases encodeChar_cases c with ⟨hc, -, he⟩ | ⟨escape, he, hescape⟩ <;>
    rcases encodeChar_cases d with ⟨hd, -, he'⟩ | ⟨escape', he', hescape'⟩ <;>
    rw [he, he'] at h
  · exact List.cons.inj h
  · exact absurd (List.cons.inj h).1 hc
  · exact absurd (List.cons.inj h).1.symm hd
  · have hread : escape ++ x = escape' ++ y := (List.cons.inj h).2
    exact Accepted.unique (.inl (hescape x)) (.inl (hread ▸ hescape' y))

theorem encode_append_inj {cs ds x y : List Char}
    (h : cs.flatMap encodeChar ++ '"' :: x = ds.flatMap encodeChar ++ '"' :: y) :
    cs = ds ∧ x = y := by
  induction cs generalizing ds with
  | nil =>
    match ds with
    | [] => exact ⟨rfl, (List.cons.inj h).2⟩
    | d :: ds =>
      rw [List.flatMap_cons, List.append_assoc] at h
      exact absurd h.symm (encodeChar_append_ne d _ _)
  | cons c cs ih =>
    match ds with
    | [] =>
      rw [List.flatMap_cons, List.append_assoc] at h
      exact absurd h (encodeChar_append_ne c _ _)
    | d :: ds =>
      rw [List.flatMap_cons, List.flatMap_cons, List.append_assoc, List.append_assoc] at h
      obtain ⟨rfl, hrest⟩ := encodeChar_append_inj h
      obtain ⟨rfl, rfl⟩ := ih hrest
      exact ⟨rfl, rfl⟩

/-- **Two quoted texts that agree, with what follows them, are one.** -/
theorem quote_append_inj {s t : String} {x y : List Char}
    (h : (quote s).toList ++ x = (quote t).toList ++ y) : s = t ∧ x = y := by
  rw [toList_quote, toList_quote, List.cons_append, List.cons_append, List.append_assoc,
    List.append_assoc] at h
  obtain ⟨hs, hrest⟩ := encode_append_inj (List.cons.inj h).2
  exact ⟨String.toList_injective hs, hrest⟩

end Graft.Text
