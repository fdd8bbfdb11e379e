/-!
Tables from names to things, in the order in which the names were first entered.

A table is a list of pairs. Entering a name that is there replaces its thing and keeps its
place; a new name goes to the end; removing a name closes the gap. No operation enters a
name twice, and `Table.Distinct` says that none occurs twice.
-/

set_option autoImplicit false

namespace Graft

/-- A table from names to things of one type. -/
abbrev Table (α : Type) := List (String × α)

namespace Table

variable {α β : Type}

/-- The thing under a name. -/
def get? : Table α → String → Option α
  | [], _ => none
  | (k, v) :: rest, name => if k = name then some v else get? rest name

/-- Whether a name is entered. -/
def has (t : Table α) (name : String) : Bool :=
  (get? t name).isSome

/-- Enters a thing under a name. -/
def insert : Table α → String → α → Table α
  | [], name, x => [(name, x)]
  | (k, v) :: rest, name, x =>
    if k = name then (k, x) :: rest else (k, v) :: insert rest name x

/-- Removes a name. -/
def erase : Table α → String → Table α
  | [], _ => []
  | (k, v) :: rest, name => if k = name then rest else (k, v) :: erase rest name

/-- The names in order. -/
def names (t : Table α) : List String :=
  t.map Prod.fst

/-- The things in order. -/
def things (t : Table α) : List α :=
  t.map Prod.snd

/-- The table of a list of pairs: a repeated name keeps its first place and takes its last
thing. -/
def ofPairs (pairs : List (String × α)) : Table α :=
  pairs.foldl (fun t (k, v) => insert t k v) []

/-- No name is entered twice. -/
def Distinct (t : Table α) : Prop :=
  (names t).Nodup

@[simp] theorem get?_nil (name : String) : get? ([] : Table α) name = none := rfl

theorem get?_insert (t : Table α) (name other : String) (x : α) :
    get? (insert t name x) other = if name = other then some x else get? t other := by
  induction t with
  | nil => simp [insert, get?]
  | cons e rest ih =>
    obtain ⟨k, v⟩ := e
    by_cases hk : k = name
    · subst hk
      by_cases ho : k = other <;> simp [insert, get?, ho]
    · by_cases ho : k = other
      · subst ho
        simp [insert, get?, hk, Ne.symm hk]
      · simp [insert, get?, hk, ho, ih]

theorem mem_names_iff (t : Table α) (name : String) : name ∈ names t ↔ has t name = true := by
  induction t with
  | nil => simp [names, has]
  | cons e rest ih =>
    obtain ⟨k, v⟩ := e
    by_cases hk : k = name
    · simp [names, has, get?, hk]
    · simp only [names, has] at ih ⊢
      simp [get?, hk, Ne.symm hk, ih]

/-- A name that is entered twice keeps one place. -/
theorem Distinct.insert {t : Table α} (h : t.Distinct) (name : String) (x : α) :
    (Table.insert t name x).Distinct := by
  have hnames : ∀ (t : Table α) (other : String),
      other ∈ names (Table.insert t name x) → other = name ∨ other ∈ names t := by
    intro t other hother
    rw [mem_names_iff, has, get?_insert] at hother
    by_cases hn : name = other
    · exact .inl hn.symm
    · rw [if_neg hn] at hother
      exact .inr ((mem_names_iff t other).mpr hother)
  induction t with
  | nil => exact List.pairwise_singleton _ _
  | cons e rest ih =>
    obtain ⟨k, v⟩ := e
    obtain ⟨hk, hrest⟩ := List.nodup_cons.mp h
    rw [Table.insert]
    split
    · exact List.nodup_cons.mpr ⟨hk, hrest⟩
    · rename_i hne
      refine List.nodup_cons.mpr ⟨fun hmem => ?_, ih hrest⟩
      rcases hnames rest k hmem with heq | hmem
      · exact hne heq
      · exact hk hmem

end Table

end Graft
