import Graft.Proofs.Value.Literal

/-!
A literal on one line is the literal of one value only.

A value shows its kind by its first character, and where it ends: a word, a quoted text and a
bracket by themselves, a whole number by what follows it, which is nothing, a comma or a closing
bracket. What shows its end can be taken away from before two texts that agree. So the parts of a
list and the entries of an object are found one by one, and values with the same literal are the
same.

Doubles are left out. Two of them may be written alike, and they are not read here.
-/

set_option autoImplicit false

namespace Graft

/-! ## Texts that show where they end -/

/-- What may follow a value: nothing, a comma or a closing bracket. -/
def Stops (x : List Char) : Prop :=
  ∀ c ∈ x.head?, c ∈ [',', ']', '\x7d']

theorem stops_nil : Stops [] := by
  intro c hc
  cases hc

theorem stops_cons {c : Char} (hc : c ∈ [',', ']', '\x7d']) (rest : List Char) :
    Stops (c :: rest) := by
  intro d hd
  obtain rfl := Option.some.inj hd
  exact hc

/-- The text of `a` can be told from that of everything with `p`, whatever may follow it. -/
def ShowsEnd {α : Type} (f : α → String) (p : α → Prop) (a : α) : Prop :=
  ∀ ⦃b x y⦄, p b → Stops x → Stops y → (f a).toList ++ x = (f b).toList ++ y → a = b ∧ x = y

/-- Texts of certain characters, before others that do not begin with one. -/
theorem append_inj_of_head {P : Char → Prop} {a b x y : List Char} (ha : ∀ c ∈ a, P c)
    (hb : ∀ c ∈ b, P c) (hx : ∀ c ∈ x.head?, ¬ P c) (hy : ∀ c ∈ y.head?, ¬ P c)
    (h : a ++ x = b ++ y) : a = b ∧ x = y := by
  rcases List.append_eq_append_iff.mp h with ⟨more, rfl, rfl⟩ | ⟨more, rfl, rfl⟩
  · match more with
    | [] => exact ⟨(List.append_nil a).symm, rfl⟩
    | c :: more => exact absurd (hb c (by simp)) (hx c rfl)
  · match more with
    | [] => exact ⟨List.append_nil b, rfl⟩
    | c :: more => exact absurd (ha c (by simp)) (hy c rfl)

/-! ## Numbers and keys -/

theorem signedDecimal_append_inj {n m : Int64} {x y : List Char} (hx : Stops x) (hy : Stops y)
    (h : (Numeral.signedDecimal n.toInt).toList ++ x =
      (Numeral.signedDecimal m.toInt).toList ++ y) : n = m ∧ x = y := by
  have hdigit : ∀ d < 10, Nat.digitChar d ∉ [',', ']', '\x7d'] := by decide
  have hstops : ∀ c ∈ [',', ']', '\x7d'], ¬ (c = '-' ∨ ∃ d < 10, c = Nat.digitChar d) := by
    rintro c hc (rfl | ⟨d, hd, rfl⟩)
    · exact absurd hc (by decide)
    · exact hdigit d hd hc
  obtain ⟨hdigits, hrest⟩ := append_inj_of_head (fun c => Numeral.mem_signedDecimal)
    (fun c => Numeral.mem_signedDecimal) (fun c hc => hstops c (hx c hc))
    (fun c hc => hstops c (hy c hc)) h
  have hread := Numeral.int64?_signedDecimal n
  rw [hdigits, Numeral.int64?_signedDecimal] at hread
  exact ⟨(Option.some.inj hread).symm, hrest⟩

/-- A bare key begins with a character that may stand in it. -/
theorem bareKey_append_ne {key : List Char} (h : isBareKey key = true) {c : Char}
    (hc : (Text.isLetter c || Text.isNumeral c || c = '_') = false) (x y : List Char) :
    key ++ x ≠ c :: y := by
  intro he
  match key with
  | [] => cases h
  | first :: rest =>
    obtain rfl : first = c := (List.cons.inj he).1
    exact not_mem_of_isBareKey h hc List.mem_cons_self

theorem literalKey_append_ne (key : String) (x y : List Char) :
    (literalKey key).toList ++ x ≠ '\x7d' :: y := by
  rw [literalKey]
  split
  next h => exact bareKey_append_ne h (by decide) x y
  next => exact Text.quote_append_ne key (by decide) x y

/-- A key ends at its closing quote, or at the colon that follows it. -/
theorem literalKey_append_inj {key key' : String} {x y : List Char}
    (h : (literalKey key).toList ++ ':' :: x = (literalKey key').toList ++ ':' :: y) :
    key = key' ∧ x = y := by
  have htail : ∀ {x y : List Char}, ':' :: x = ':' :: y → x = y := fun he => (List.cons.inj he).2
  have hquoted : ∀ {key s : String} {x y : List Char}, isBareKey key.toList = true →
      key.toList ++ x ≠ (Text.quote s).toList ++ y := by
    intro key s x y hkey he
    rw [Text.toList_quote] at he
    exact bareKey_append_ne hkey (by decide) _ _ he
  rw [literalKey, literalKey] at h
  split at h
  next hkey =>
    split at h
    next hkey' =>
      have hcolon : ∀ {x : List Char}, ∀ c ∈ (':' :: x).head?,
          ¬ (Text.isLetter c || Text.isNumeral c || c = '_') = true := by
        intro x c hc
        obtain rfl := Option.some.inj hc
        decide
      obtain ⟨hchars, hrest⟩ := append_inj_of_head (fun c => mem_of_isBareKey hkey)
        (fun c => mem_of_isBareKey hkey') hcolon hcolon h
      exact ⟨String.toList_injective hchars, htail hrest⟩
    next => exact absurd h (hquoted hkey)
  next =>
    split at h
    next hkey' => exact absurd h.symm (hquoted hkey')
    next => exact (Text.quote_append_inj h).imp_right htail

/-! ## Brackets -/

/-- Every text but the first one follows a separator. -/
theorem intercalate_cons (separator first : List Char) (rest : List (List Char)) :
    separator.intercalate (first :: rest) = first ++ rest.flatMap (separator ++ ·) := by
  induction rest generalizing first with
  | nil =>
    rw [List.flatMap_nil, List.append_nil]
    exact List.intercalate_singleton
  | cons next rest ih =>
    rw [List.intercalate_cons_cons, ih, List.append_assoc, List.flatMap_cons, List.append_assoc]

section

variable {α : Type} {f : α → String} {p : α → Prop} {c : Char}

/-- What follows the first part of several, up to the closing bracket. -/
theorem stops_behind (hc : c ∈ [']', '\x7d']) (parts : List α) (x : List Char) :
    Stops ((parts.flatMap fun a => ',' :: ' ' :: (f a).toList) ++ c :: x) := by
  match parts with
  | [] => exact stops_cons (List.mem_cons_of_mem _ hc) x
  | a :: rest => exact stops_cons List.mem_cons_self _

/-- Parts behind the first one are found one by one. -/
theorem behind_append_inj (hc : c ∈ [']', '\x7d']) {as bs : List α}
    (has : ∀ a ∈ as, ShowsEnd f p a) (hbs : ∀ b ∈ bs, p b) {x y : List Char}
    (h : (as.flatMap fun a => ',' :: ' ' :: (f a).toList) ++ c :: x =
      (bs.flatMap fun b => ',' :: ' ' :: (f b).toList) ++ c :: y) : as = bs ∧ x = y := by
  have hcomma : c ≠ ',' := by
    rintro rfl
    exact absurd hc (by decide)
  induction as generalizing bs with
  | nil =>
    match bs with
    | [] => exact ⟨rfl, (List.cons.inj h).2⟩
    | b :: bs => exact absurd (List.cons.inj h).1 hcomma
  | cons a as ih =>
    match bs with
    | [] => exact absurd (List.cons.inj h).1.symm hcomma
    | b :: bs =>
      rw [List.flatMap_cons, List.flatMap_cons, List.append_assoc, List.append_assoc] at h
      have hparts := (List.cons.inj (List.cons.inj h).2).2
      obtain ⟨rfl, hrest⟩ := has a List.mem_cons_self (hbs b List.mem_cons_self)
        (stops_behind hc as x) (stops_behind hc bs y) hparts
      obtain ⟨rfl, rfl⟩ := ih (fun a ha => has a (List.mem_cons_of_mem _ ha))
        (fun b hb => hbs b (List.mem_cons_of_mem _ hb)) hrest
      exact ⟨rfl, rfl⟩

namespace Value

section

variable {closing : String} (hclosing : closing.toList = [c])
include hclosing

theorem bracketed_nil_append (level : Nat) (opening : String) (x : List Char) :
    (bracketed false level opening closing []).toList ++ x = opening.toList ++ c :: x := by
  have hempty : bracketed false level opening closing [] = opening ++ closing := rfl
  rw [hempty, String.toList_append, hclosing, List.append_assoc, List.singleton_append]

theorem bracketed_cons_append (level : Nat) (opening : String) (a : α) (as : List α)
    (x : List Char) :
    (bracketed false level opening closing ((a :: as).map f)).toList ++ x =
      opening.toList ++ ((f a).toList ++
        ((as.flatMap fun a => ',' :: ' ' :: (f a).toList) ++ c :: x)) := by
  have hcompact : bracketed false level opening closing ((a :: as).map f) =
      opening ++ "" ++ String.intercalate ", " ((a :: as).map f) ++ "" ++ closing := rfl
  have hseparator : ", ".toList = [',', ' '] := rfl
  rw [hcompact, String.append_empty, String.append_empty, String.toList_append,
    String.toList_append, String.toList_intercalate, hseparator, List.map_cons, List.map_cons,
    intercalate_cons, List.map_map, List.flatMap_map, hclosing]
  simp only [List.append_assoc, List.singleton_append]
  rfl

/-- **Parts between brackets are found one by one.** -/
theorem bracketed_append_inj (hc : c ∈ [']', '\x7d'])
    (hbegin : ∀ {b}, p b → ∀ x y, (f b).toList ++ x ≠ c :: y) {as bs : List α}
    (has : ∀ a ∈ as, p a ∧ ShowsEnd f p a) (hbs : ∀ b ∈ bs, p b) {level : Nat}
    {opening : String} {x y : List Char}
    (h : (bracketed false level opening closing (as.map f)).toList ++ x =
      (bracketed false level opening closing (bs.map f)).toList ++ y) : as = bs ∧ x = y := by
  match as, bs with
  | [], [] => exact ⟨rfl, List.append_cancel_left h⟩
  | [], b :: bs =>
    rw [List.map_nil, bracketed_nil_append hclosing, bracketed_cons_append hclosing] at h
    have hparts := List.append_cancel_left h
    exact absurd hparts.symm (hbegin (hbs b List.mem_cons_self) _ _)
  | a :: as, [] =>
    rw [List.map_nil, bracketed_nil_append hclosing, bracketed_cons_append hclosing] at h
    have hparts := List.append_cancel_left h
    exact absurd hparts (hbegin (has a List.mem_cons_self).1 _ _)
  | a :: as, b :: bs =>
    rw [bracketed_cons_append hclosing, bracketed_cons_append hclosing] at h
    obtain ⟨rfl, hrest⟩ := (has a List.mem_cons_self).2 (hbs b List.mem_cons_self)
      (stops_behind hc as x) (stops_behind hc bs y) (List.append_cancel_left h)
    obtain ⟨rfl, rfl⟩ := behind_append_inj hc
      (fun a ha => (has a (List.mem_cons_of_mem _ ha)).2)
      (fun b hb => hbs b (List.mem_cons_of_mem _ hb)) hrest
    exact ⟨rfl, rfl⟩

end

end Value

end

namespace Value

/-! ## Values without doubles -/

mutual

/-- No double occurs in a value, at any depth. -/
def FloatFree : Value → Prop
  | null => True
  | deletion => True
  | bool _ => True
  | int _ => True
  | float _ => False
  | string _ => True
  | list items => FloatFreeItems items
  | object entries => FloatFreeEntries entries

/-- No double occurs in items. -/
def FloatFreeItems : List Value → Prop
  | [] => True
  | v :: rest => v.FloatFree ∧ FloatFreeItems rest

/-- No double occurs in entries. -/
def FloatFreeEntries : List (String × Value) → Prop
  | [] => True
  | (_, v) :: rest => v.FloatFree ∧ FloatFreeEntries rest

end

theorem floatFreeItems_iff : ∀ {items : List Value},
    FloatFreeItems items ↔ ∀ v ∈ items, v.FloatFree
  | [] => by simp [FloatFreeItems]
  | v :: rest => by simp [FloatFreeItems, floatFreeItems_iff]

theorem floatFreeEntries_iff : ∀ {entries : List (String × Value)},
    FloatFreeEntries entries ↔ ∀ e ∈ entries, e.2.FloatFree
  | [] => by simp [FloatFreeEntries]
  | e :: rest => by simp [FloatFreeEntries, floatFreeEntries_iff]

/-- An entry on one line. -/
def renderEntry (level : Nat) (e : String × Value) : String :=
  literalKey e.1 ++ ": " ++ render false level e.2

theorem renderItems_eq_map (level : Nat) (items : List Value) :
    renderItems false level items = items.map (render false level) := by
  induction items with
  | nil => rfl
  | cons v rest ih => rw [renderItems, ih, List.map_cons]

theorem renderEntries_eq_map (level : Nat) (entries : List (String × Value)) :
    renderEntries false level entries = entries.map (renderEntry level) := by
  induction entries with
  | nil => rfl
  | cons e rest ih => rw [renderEntries, ih, List.map_cons, renderEntry]

/-! ## The kind of a value -/

/-- The kind of value that begins with a character. -/
def typeFrom (c : Char) : Option String :=
  if c = 'n' then some "none"
  else if c = '@' then some "deletion"
  else if c = 't' ∨ c = 'f' then some "boolean"
  else if c = '-' ∨ c.isDigit then some "integer"
  else if c = '"' then some "string"
  else if c = '[' then some "list"
  else if c = '\x7b' then some "object"
  else none

theorem bracketed_begins (level : Nat) (opening closing : String) (parts : List String) :
    ∃ rest, (bracketed false level opening closing parts).toList = opening.toList ++ rest := by
  rw [bracketed]
  split
  next => exact ⟨_, String.toList_append⟩
  next =>
    simp only [String.toList_append, List.append_assoc]
    exact ⟨_, rfl⟩

/-- A value shows its kind. -/
theorem render_cons (level : Nat) {v : Value} (hv : v.FloatFree) :
    ∃ c rest, (render false level v).toList = c :: rest ∧ typeFrom c = some v.typeName := by
  cases v <;> rw [render]
  case null => exact ⟨'n', _, rfl, rfl⟩
  case deletion => exact ⟨'@', _, rfl, rfl⟩
  case bool b =>
    cases b with
    | true => exact ⟨'t', _, rfl, rfl⟩
    | false => exact ⟨'f', _, rfl, rfl⟩
  case int n =>
    have hdigits : ∀ d < 10, typeFrom (Nat.digitChar d) = some "integer" := by decide
    rw [Numeral.toList_signedDecimal]
    split
    next => exact ⟨'-', _, rfl, rfl⟩
    next =>
      obtain ⟨d, hd, rest, hcons⟩ := Numeral.decimal_cons n.toInt.natAbs
      rw [List.nil_append, hcons]
      exact ⟨_, rest, rfl, hdigits d hd⟩
  case float => exact hv.elim
  case string s => exact ⟨'"', _, Text.toList_quote s, rfl⟩
  case list items =>
    obtain ⟨rest, hrest⟩ := bracketed_begins level "[" "]" (renderItems false (level + 1) items)
    exact ⟨'[', rest, hrest, rfl⟩
  case object entries =>
    obtain ⟨rest, hrest⟩ :=
      bracketed_begins level "\x7b" "\x7d" (renderEntries false (level + 1) entries)
    exact ⟨'\x7b', rest, hrest, rfl⟩

theorem typeName_eq_of_append {level : Nat} {v w : Value} (hv : v.FloatFree) (hw : w.FloatFree)
    {x y : List Char}
    (h : (render false level v).toList ++ x = (render false level w).toList ++ y) :
    v.typeName = w.typeName := by
  obtain ⟨c, rest, hcons, htype⟩ := render_cons level hv
  obtain ⟨c', rest', hcons', htype'⟩ := render_cons level hw
  rw [hcons, hcons'] at h
  rw [(List.cons.inj h).1] at htype
  exact Option.some.inj (htype.symm.trans htype')

/-- A value does not begin with a closing bracket. -/
theorem render_append_ne {level : Nat} {v : Value} (hv : v.FloatFree) (x y : List Char) :
    (render false level v).toList ++ x ≠ ']' :: y := by
  intro h
  obtain ⟨c, rest, hcons, htype⟩ := render_cons level hv
  rw [hcons] at h
  rw [(List.cons.inj h).1] at htype
  cases htype

theorem renderEntry_append_ne {level : Nat} (e : String × Value) (x y : List Char) :
    (renderEntry level e).toList ++ x ≠ '\x7d' :: y := by
  rw [renderEntry, String.toList_append, String.toList_append, List.append_assoc, List.append_assoc]
  exact literalKey_append_ne e.1 _ y

/-! ## Literals -/

/-- An entry ends where its value does. -/
theorem showsEnd_entry {level : Nat} {e : String × Value}
    (h : ShowsEnd (render false level) FloatFree e.2) :
    ShowsEnd (renderEntry level) (fun e => e.2.FloatFree) e := by
  intro e' x y he' hx hy htext
  simp only [renderEntry, String.toList_append, List.append_assoc] at htext
  obtain ⟨hkey, hrest⟩ := literalKey_append_inj htext
  obtain ⟨hvalue, rfl⟩ := h he' hx hy (List.cons.inj hrest).2
  exact ⟨Prod.ext hkey hvalue, rfl⟩

mutual

/-- **A value shows where it ends.** -/
theorem showsEnd : ∀ (v : Value) (level : Nat), v.FloatFree →
    ShowsEnd (render false level) FloatFree v
  | null, level, hv => by
    intro w x y hw hx hy h
    have htype := typeName_eq_of_append hv hw h
    cases w with
    | null => exact ⟨rfl, List.append_cancel_left h⟩
    | _ => simp [typeName] at htype
  | deletion, level, hv => by
    intro w x y hw hx hy h
    have htype := typeName_eq_of_append hv hw h
    cases w with
    | deletion => exact ⟨rfl, List.append_cancel_left h⟩
    | _ => simp [typeName] at htype
  | bool b, level, hv => by
    intro w x y hw hx hy h
    have htype := typeName_eq_of_append hv hw h
    cases w with
    | bool b' =>
      rw [render, render] at h
      cases b <;> cases b'
      · exact ⟨rfl, List.append_cancel_left h⟩
      · exact absurd (List.cons.inj h).1 (by decide)
      · exact absurd (List.cons.inj h).1 (by decide)
      · exact ⟨rfl, List.append_cancel_left h⟩
    | _ => simp [typeName] at htype
  | int n, level, hv => by
    intro w x y hw hx hy h
    have htype := typeName_eq_of_append hv hw h
    cases w with
    | int m =>
      obtain ⟨rfl, hrest⟩ := signedDecimal_append_inj hx hy h
      exact ⟨rfl, hrest⟩
    | _ => simp [typeName] at htype
  | float _, _, hv => hv.elim
  | string s, level, hv => by
    intro w x y hw hx hy h
    have htype := typeName_eq_of_append hv hw h
    cases w with
    | string t =>
      obtain ⟨rfl, hrest⟩ := Text.quote_append_inj h
      exact ⟨rfl, hrest⟩
    | _ => simp [typeName] at htype
  | list items, level, hv => by
    intro w x y hw hx hy h
    have htype := typeName_eq_of_append hv hw h
    cases w with
    | list items' =>
      rw [render, render, renderItems_eq_map, renderItems_eq_map] at h
      obtain ⟨rfl, hrest⟩ := bracketed_append_inj rfl (by decide) render_append_ne
        (fun v hmem => ⟨floatFreeItems_iff.mp hv v hmem, showsEnd_items items _ hv v hmem⟩)
        (floatFreeItems_iff.mp hw) h
      exact ⟨rfl, hrest⟩
    | _ => simp [typeName] at htype
  | object entries, level, hv => by
    intro w x y hw hx hy h
    have htype := typeName_eq_of_append hv hw h
    cases w with
    | object entries' =>
      rw [render, render, renderEntries_eq_map, renderEntries_eq_map] at h
      obtain ⟨rfl, hrest⟩ := bracketed_append_inj rfl (by decide)
        (fun {e} _ => renderEntry_append_ne e)
        (fun e hmem => ⟨floatFreeEntries_iff.mp hv e hmem, showsEnd_entries entries _ hv e hmem⟩)
        (floatFreeEntries_iff.mp hw) h
      exact ⟨rfl, hrest⟩
    | _ => simp [typeName] at htype

theorem showsEnd_items : ∀ (items : List Value) (level : Nat), FloatFreeItems items →
    ∀ v ∈ items, ShowsEnd (render false level) FloatFree v
  | [], _, _, _, hmem => by cases hmem
  | v :: rest, level, h, w, hmem => by
    rcases List.mem_cons.mp hmem with hfirst | hmem
    · exact hfirst ▸ showsEnd v level h.1
    · exact showsEnd_items rest level h.2 w hmem

theorem showsEnd_entries : ∀ (entries : List (String × Value)) (level : Nat),
    FloatFreeEntries entries →
    ∀ e ∈ entries, ShowsEnd (renderEntry level) (fun e => e.2.FloatFree) e
  | [], _, _, _, hmem => by cases hmem
  | (k, v) :: rest, level, h, e, hmem => by
    rcases List.mem_cons.mp hmem with hfirst | hmem
    · exact hfirst ▸ showsEnd_entry (showsEnd v level h.1)
    · exact showsEnd_entries rest level h.2 e hmem

end

/-- **Values without doubles are the same if their literals are.** Entries are in the same order. -/
theorem literal_eq_iff {v w : Value} (hv : v.FloatFree) (hw : w.FloatFree) :
    v.literal = w.literal ↔ v = w := by
  constructor
  · intro h
    have htext : (render false 0 v).toList ++ [] = (render false 0 w).toList ++ [] :=
      congrArg (String.toList · ++ []) h
    exact (showsEnd v 0 hv hw stops_nil stops_nil htext).1
  · rintro rfl
    rfl

/-- A list of texts, and a text that looks like a part of it. -/
theorem literal_eq_iff_comma :
    (list [string "a", string "b"]).FloatFree ∧ (list [string "a\", \"b"]).FloatFree ∧
      (list [string "a", string "b"]).literal ≠ (list [string "a\", \"b"]).literal := by
  have hpair : (list [string "a", string "b"]).FloatFree := ⟨trivial, trivial, trivial⟩
  have hone : (list [string "a\", \"b"]).FloatFree := ⟨trivial, trivial⟩
  refine ⟨hpair, hone, fun h => ?_⟩
  have heq := (literal_eq_iff hpair hone).mp h
  simp at heq

end Value

end Graft
