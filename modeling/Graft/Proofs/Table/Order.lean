import Mathlib.Data.List.Nodup
import Mathlib.Data.List.Perm.Subperm
import Graft.Table

/-!
Names and their order under the operations on tables.

A table in which no name is entered twice is read by its names: entering a new name puts it
behind the others, entering a known one changes no name, and removing a name takes it out and
leaves the order of the others.
-/

set_option autoImplicit false

namespace Graft.Table

variable {α : Type}

/-! ## What is entered -/

theorem get?_eq_none_iff {t : Table α} {name : String} :
    get? t name = none ↔ name ∉ names t := by
  rw [mem_names_iff, has, Option.not_isSome_iff_eq_none]

theorem get?_cons (k : String) (v : α) (t : Table α) (name : String) :
    get? ((k, v) :: t) name = if k = name then some v else get? t name := rfl

/-- The first name of a table does not occur again. -/
theorem Distinct.get?_tail {k : String} {v : α} {t : Table α} (h : Distinct ((k, v) :: t)) :
    get? t k = none :=
  get?_eq_none_iff.mpr (List.nodup_cons.mp h).1

theorem Distinct.tail {e : String × α} {t : Table α} (h : Distinct (e :: t)) : t.Distinct :=
  (List.nodup_cons.mp h).2

/-- In a table without repetitions, a name leads to the thing it is entered with. -/
theorem Distinct.get?_of_mem {t : Table α} (h : t.Distinct) {name : String} {x : α}
    (hmem : (name, x) ∈ t) : get? t name = some x := by
  induction t with
  | nil => cases hmem
  | cons e rest ih =>
    obtain ⟨k, v⟩ := e
    rw [get?_cons]
    rcases List.mem_cons.mp hmem with he | hmem
    · cases he
      rw [if_pos rfl]
    · -- The name of an entry further on is not that of the first.
      have hk : k ≠ name := by
        rintro rfl
        exact (List.nodup_cons.mp h).1 (List.mem_map.mpr ⟨_, hmem, rfl⟩)
      rw [if_neg hk]
      exact ih h.tail hmem

/-- What a name leads to is entered under it. -/
theorem mem_of_get? {t : Table α} {name : String} {x : α} (h : get? t name = some x) :
    (name, x) ∈ t := by
  induction t with
  | nil => cases h
  | cons e rest ih =>
    obtain ⟨k, v⟩ := e
    rw [get?_cons] at h
    split at h
    · rename_i hk
      cases h
      rw [hk]
      exact List.mem_cons_self
    · exact List.mem_cons_of_mem _ (ih h)

/-- In a table without repetitions, the order of the entries does not matter for lookups. -/
theorem Distinct.get?_of_perm {s t : Table α} (hs : s.Distinct) (h : t.Perm s) (name : String) :
    get? t name = get? s name := by
  have ht : t.Distinct := (h.map Prod.fst).nodup_iff.mpr hs
  cases hfound : get? s name with
  | some x => exact ht.get?_of_mem (h.mem_iff.mpr (mem_of_get? hfound))
  | none =>
    rw [get?_eq_none_iff] at hfound ⊢
    exact fun hname => hfound ((h.map Prod.fst).mem_iff.mp hname)

/-- Two tables without repetitions have the same names if they are as long and the one has the
names of the other. -/
theorem Distinct.has_eq_iff {s t : Table α} (hs : s.Distinct) (ht : t.Distinct) :
    (∀ name, has s name = has t name) ↔
      s.length = t.length ∧ ∀ name, has s name = true → has t name = true := by
  have hlength : (names s).length = (names t).length ↔ s.length = t.length := by
    rw [names, names, List.length_map, List.length_map]
  have hnames : (∀ name, has s name = has t name) ↔ ∀ name, name ∈ names s ↔ name ∈ names t :=
    forall_congr' fun name => by rw [mem_names_iff, mem_names_iff, Bool.eq_iff_iff]
  simp only [hnames, ← hlength, ← mem_names_iff]
  constructor
  · intro h
    have hperm : (names s).Perm (names t) := (List.perm_ext_iff_of_nodup hs ht).mpr h
    exact ⟨hperm.length_eq, fun name => (h name).mp⟩
  · rintro ⟨hlength, hsub⟩ name
    have hsub : (names s).Subperm (names t) := List.Nodup.subperm hs hsub
    exact (hsub.perm_of_length_le (Nat.le_of_eq hlength.symm)).mem_iff

/-- A table without repetitions is known by its names in order and what each of them leads to. -/
theorem Distinct.ext {s t : Table α} (hs : s.Distinct) (hnames : names s = names t)
    (h : ∀ name, get? s name = get? t name) : s = t := by
  induction s generalizing t with
  | nil => exact (List.map_eq_nil_iff.mp hnames.symm).symm
  | cons e rest ih =>
    obtain ⟨k, v⟩ := e
    match t, hnames with
    | (k', w) :: others, hnames =>
      obtain ⟨rfl, hrest⟩ := List.cons.inj hnames
      have ht : Distinct ((k, w) :: others) := by
        rw [Distinct, ← hnames]
        exact hs
      have hfirst : v = w := by
        have hk := h k
        rwa [get?_cons, get?_cons, if_pos rfl, if_pos rfl, Option.some_inj] at hk
      have hothers : rest = others := by
        refine ih hs.tail hrest fun name => ?_
        by_cases hname : k = name
        · rw [← hname, hs.get?_tail, ht.get?_tail]
        · have hother := h name
          rwa [get?_cons, get?_cons, if_neg hname, if_neg hname] at hother
      rw [hfirst, hothers]

/-! ## Parts of tables -/

theorem get?_append (s t : Table α) (name : String) :
    get? (s ++ t) name = (get? s name).or (get? t name) := by
  induction s with
  | nil => rfl
  | cons e rest ih =>
    obtain ⟨k, v⟩ := e
    rw [List.cons_append, get?_cons, get?_cons]
    split
    · rfl
    · exact ih

/-- Of a table that is filtered by names, those that pass lead where they did. -/
theorem get?_filter (q : String → Bool) (t : Table α) (name : String) :
    get? (t.filter fun e => q e.1) name = if q name then get? t name else none := by
  induction t with
  | nil => simp
  | cons e rest ih =>
    obtain ⟨k, v⟩ := e
    rw [List.filter_cons]
    by_cases hk : k = name
    · subst hk
      by_cases hq : q k = true
      · simp only [hq, if_true, get?_cons]
      · rw [if_neg hq, ih, if_neg hq, if_neg hq]
    · have hrest : get? ((k, v) :: rest) name = get? rest name := by rw [get?_cons, if_neg hk]
      rw [hrest, ← ih]
      split
      · rw [get?_cons, if_neg hk]
      · rfl

theorem Distinct.filter {t : Table α} (h : t.Distinct) (q : String × α → Bool) :
    Distinct (t.filter q) :=
  h.sublist (List.filter_sublist.map Prod.fst)

/-! ## Entering -/

theorem names_insert (t : Table α) (name : String) (x : α) :
    names (insert t name x) = if has t name then names t else names t ++ [name] := by
  induction t with
  | nil => rfl
  | cons e rest ih =>
    obtain ⟨k, v⟩ := e
    by_cases hk : k = name
    · simp [insert, names, has, get?, hk]
    · have hhas : has ((k, v) :: rest) name = has rest name := by
        rw [has, has, get?_cons, if_neg hk]
      rw [insert, if_neg hk, hhas]
      simp only [names, List.map_cons] at ih ⊢
      rw [ih]
      split <;> rfl

/-- A name that is not there goes to the end. -/
theorem insert_of_not_mem {t : Table α} {name : String} (h : name ∉ names t) (x : α) :
    insert t name x = t ++ [(name, x)] := by
  induction t with
  | nil => rfl
  | cons e rest ih =>
    obtain ⟨k, v⟩ := e
    simp only [names, List.map_cons, List.mem_cons, not_or] at h
    rw [insert, if_neg (Ne.symm h.1), ih h.2]
    rfl

/-- Entering what is there already changes nothing. -/
theorem insert_get? {t : Table α} {name : String} {x : α} (h : get? t name = some x) :
    insert t name x = t := by
  induction t with
  | nil => cases h
  | cons e rest ih =>
    obtain ⟨k, v⟩ := e
    rw [get?_cons] at h
    rw [insert]
    split at h
    · rename_i hk
      cases h
      rw [if_pos hk]
    · rename_i hk
      rw [if_neg hk, ih h]

/-- A list of pairs that repeats no name is the table of it. -/
theorem ofPairs_of_distinct {t : Table α} (h : t.Distinct) : ofPairs t = t := by
  -- The induction is on what is still to be entered, behind what has been.
  have hfold : ∀ (rest entered : Table α), Distinct (entered ++ rest) →
      rest.foldl (fun t (e : String × α) => insert t e.1 e.2) entered = entered ++ rest := by
    intro rest
    induction rest with
    | nil => exact fun entered _ => (List.append_nil entered).symm
    | cons e rest ih =>
      intro entered hdistinct
      have hnew : e.1 ∉ names entered := by
        rw [Distinct, names, List.map_append, List.nodup_append] at hdistinct
        intro hmem
        exact hdistinct.2.2 e.1 hmem e.1 List.mem_cons_self rfl
      rw [List.append_cons] at hdistinct ⊢
      rw [List.foldl_cons, insert_of_not_mem hnew]
      exact ih (entered ++ [e]) hdistinct
  exact hfold t [] h

/-! ## Removing -/

theorem names_erase (t : Table α) (name : String) :
    names (erase t name) = (names t).erase name := by
  induction t with
  | nil => rfl
  | cons e rest ih =>
    obtain ⟨k, v⟩ := e
    by_cases hk : k = name
    · simp [erase, names, hk]
    · simp only [names, List.map_cons] at ih ⊢
      rw [erase, if_neg hk, List.map_cons, ih, List.erase_cons_tail (by simpa using hk)]

/-- There is nothing to remove under a name that is not there. -/
theorem erase_of_not_mem {t : Table α} {name : String} (h : name ∉ names t) :
    erase t name = t := by
  induction t with
  | nil => rfl
  | cons e rest ih =>
    obtain ⟨k, v⟩ := e
    simp only [names, List.map_cons, List.mem_cons, not_or] at h
    rw [erase, if_neg (Ne.symm h.1), ih h.2]

/-- In a table without repetitions, removing a name leaves the entries with other names. -/
theorem Distinct.erase_eq_filter {t : Table α} (h : t.Distinct) (name : String) :
    Table.erase t name = t.filter fun e => e.1 ≠ name := by
  induction t with
  | nil => rfl
  | cons e rest ih =>
    obtain ⟨k, v⟩ := e
    by_cases hk : k = name
    · -- No other entry has the name.
      subst hk
      rw [Table.erase, if_pos rfl, List.filter_cons_of_neg (by simp), eq_comm,
        List.filter_eq_self]
      intro e he
      exact decide_eq_true fun heq =>
        (List.nodup_cons.mp h).1 (List.mem_map.mpr ⟨e, he, heq⟩)
    · rw [Table.erase, if_neg hk, List.filter_cons_of_pos (by simpa using hk), ih h.tail]

/-- In a table without repetitions, a name that has been removed is gone for good, and every
other name keeps its thing. -/
theorem Distinct.get?_erase {t : Table α} (h : t.Distinct) (name other : String) :
    get? (erase t name) other = if name = other then none else get? t other := by
  induction t with
  | nil => simp [erase]
  | cons e rest ih =>
    obtain ⟨k, v⟩ := e
    by_cases hk : k = name
    · subst hk
      rw [erase, if_pos rfl, get?_cons]
      by_cases ho : k = other
      · rw [if_pos ho, ← ho]
        exact h.get?_tail
      · rw [if_neg ho, if_neg ho]
    · rw [erase, if_neg hk, get?_cons, get?_cons, ih h.tail]
      by_cases ho : k = other
      · rw [if_pos ho, if_pos ho, if_neg fun hn => hk (ho.trans hn.symm)]
      · rw [if_neg ho, if_neg ho]

theorem Distinct.erase {t : Table α} (h : t.Distinct) (name : String) :
    Distinct (Table.erase t name) := by
  unfold Distinct
  rw [names_erase]
  exact List.Nodup.erase name h

end Graft.Table
