import Graft.Proofs.Value.Alike

/-!
Merges that are independent of each other.

Two objects are compatible if they say different things about different places only: where both
have the same key, both have an object there, and these are compatible in turn. What one of them
adds, replaces or removes is then nothing that the other one looks at, so it does not matter which
is merged first. What is merged into may be anything: a scalar or a list is replaced by the object
that is merged first, without its markers, and the second one meets that object; the result is
the same as if both had been merged into an empty object.
-/

set_option autoImplicit false

namespace Graft.Value

/-! ## Compatible objects -/

mutual

/-- Two objects have compatible objects at every key that they share. -/
def Compatible : Value → Value → Prop
  | object b, object c => CompatibleEntries b c
  | _, _ => False

/-- Every entry of the first table is compatible with what the second has under its key. -/
def CompatibleEntries : List (String × Value) → List (String × Value) → Prop
  | [], _ => True
  | (k, v) :: rest, c => (∀ w, Table.get? c k = some w → v.Compatible w) ∧ CompatibleEntries rest c

end

theorem Compatible.objects {b c : Value} (h : b.Compatible c) :
    ∃ bs cs : Table Value, b = object bs ∧ c = object cs ∧ CompatibleEntries bs cs := by
  cases b with
  | object bs =>
    cases c with
    | object cs => exact ⟨bs, cs, rfl, rfl, h⟩
    | _ => exact h.elim
  | _ => exact h.elim

/-- At every key that two compatible objects share, both have objects, which are compatible. -/
theorem CompatibleEntries.get? {bs cs : Table Value} (h : CompatibleEntries bs cs) {k : String}
    {v w : Value} (hv : Table.get? bs k = some v) (hw : Table.get? cs k = some w) :
    v.Compatible w := by
  induction bs with
  | nil => cases hv
  | cons e rest ih =>
    obtain ⟨k', v'⟩ := e
    rw [Table.get?_cons] at hv
    by_cases hk : k' = k
    · rw [if_pos hk] at hv
      cases hv
      exact h.1 w (hk ▸ hw)
    · rw [if_neg hk] at hv
      exact ih h.2 hv

/-! ## What an object is merged into -/

/-- The entries of an object; anything else counts as an object without entries. -/
def entriesOrNone : Value → Table Value
  | object entries => entries
  | _ => []

theorem Distinct.entriesOrNone {v : Value} (h : v.Distinct) :
    v.entriesOrNone.Distinct ∧ DistinctEntries v.entriesOrNone := by
  cases v with
  | object entries => exact h
  | _ => exact ⟨List.nodup_nil, trivial⟩

/-- Entries with new keys are put behind the others, without the markers among them and inside
them. -/
theorem mergeEntries_of_new {l : Table Value} {r : Table Value} (hr : r.Distinct)
    (hnew : ∀ name ∈ Table.names r, name ∉ Table.names l) :
    mergeEntries l r = l ++ entriesWithoutDeletions r := by
  induction r generalizing l with
  | nil => rw [mergeEntries_nil, entriesWithoutDeletions, List.append_nil]
  | cons e rest ih =>
    obtain ⟨k, v⟩ := e
    have hk : k ∉ Table.names l := hnew k List.mem_cons_self
    have hrest : ∀ name ∈ Table.names rest, name ∉ Table.names l := fun name hname =>
      hnew name (List.mem_cons_of_mem _ hname)
    rw [mergeEntries_cons, mergeEntry, entriesWithoutDeletions]
    by_cases hv : v.isDeletion
    · rw [if_pos hv, if_pos hv, Table.erase_of_not_mem hk, ih hr.tail hrest]
    · rw [if_neg hv, if_neg hv, Table.get?_eq_none_iff.mpr hk, Table.insert_of_not_mem hk,
        ih hr.tail, List.append_assoc, List.singleton_append]
      -- The keys further on are not the one that has just been entered.
      intro name hname hmem
      rw [Table.names, List.map_append, List.mem_append] at hmem
      rcases hmem with hmem | hmem
      · exact hrest name hname hmem
      · rw [List.map_singleton, List.mem_singleton] at hmem
        exact (List.nodup_cons.mp hr).1 (hmem ▸ hname)

/-- An object is merged into anything else as into an object without entries. -/
theorem merge_object (a : Value) {b : Table Value} (hb : b.Distinct) :
    a.merge (object b) = object (mergeEntries a.entriesOrNone b) := by
  have hempty : mergeEntries [] b = entriesWithoutDeletions b := by
    rw [mergeEntries_of_new hb fun _ _ => List.not_mem_nil, List.nil_append]
  cases a with
  | object l => rw [merge]; rfl
  | _ => rw [merge, entriesOrNone, hempty, withoutDeletions] <;> simp

/-! ## Either order -/

/-- It does not matter which of two compatible objects is merged first, if this is one of them. -/
def Commutes (b : Value) : Prop :=
  ∀ a c : Value, a.Distinct → b.Distinct → c.Distinct → b.Compatible c →
    ((a.merge b).merge c).Alike ((a.merge c).merge b)

/-- Tables that have the same under a key have what is alike there. -/
theorem DistinctEntries.rel_alike {s t : Table Value} (hs : DistinctEntries s) {k : String}
    (h : Table.get? s k = Table.get? t k) :
    Option.Rel Alike (Table.get? s k) (Table.get? t k) := by
  rw [← h]
  cases hv : Table.get? s k with
  | none => exact .none
  | some v => exact .some (hs.get? hv).alike

/-- An object commutes with what it is compatible with if all that it holds does. -/
theorem commutes_object {bs : Table Value}
    (h : ∀ k v, Table.get? bs k = some v → v.Commutes) : (object bs).Commutes := by
  intro a c ha ⟨hb, hbs⟩ hc hcompatible
  obtain ⟨_, cs, he, rfl, hentries⟩ := hcompatible.objects
  cases he
  obtain ⟨hc, hcs⟩ := hc
  obtain ⟨hl, hls⟩ := ha.entriesOrNone
  rw [merge_object a hb, merge_object a hc, merge, merge]
  generalize a.entriesOrNone = l at hl hls
  -- What there is at a key in the end depends on what the three tables have there.
  have hleft : ∀ k, Table.get? (mergeEntries (mergeEntries l bs) cs) k =
      mergedAt (mergedAt (Table.get? l k) (Table.get? bs k)) (Table.get? cs k) := by
    intro k
    rw [get?_mergeEntries (distinct_mergeEntries hl) hc, get?_mergeEntries hl hb]
  have hright : ∀ k, Table.get? (mergeEntries (mergeEntries l cs) bs) k =
      mergedAt (mergedAt (Table.get? l k) (Table.get? cs k)) (Table.get? bs k) := by
    intro k
    rw [get?_mergeEntries (distinct_mergeEntries hl) hb, get?_mergeEntries hl hc]
  have hmerged := (hls.merge hbs).merge hcs
  refine alike_object (distinct_mergeEntries (distinct_mergeEntries hl))
    (distinct_mergeEntries (distinct_mergeEntries hl)) fun k => ?_
  cases hv : Table.get? bs k with
  | none =>
    refine hmerged.rel_alike ?_
    rw [hleft, hright, hv, mergedAt_none, mergedAt_none]
  | some v =>
    cases hw : Table.get? cs k with
    | none =>
      refine hmerged.rel_alike ?_
      rw [hleft, hright, hw, mergedAt_none, mergedAt_none]
    | some w =>
      -- Both have an object at the key, and merge it into what is there.
      have hvw := hentries.get? hv hw
      obtain ⟨b, c, rfl, rfl, _⟩ := hvw.objects
      have hthere : ((Table.get? l k).getD null).Distinct := by
        cases hu : Table.get? l k with
        | none => exact trivial
        | some u => exact hls.get? hu
      rw [hleft, hright, hv, hw, mergedAt_some _ rfl, mergedAt_some _ rfl, mergedAt_some _ rfl,
        mergedAt_some _ rfl]
      exact .some (h k _ hv _ _ hthere (hbs.get? hv) (hcs.get? hw) hvw)

mutual

theorem commutes : ∀ b : Value, b.Commutes
  | object bs => commutes_object fun _ _ hv => commutes_of_get? bs hv
  | null | deletion | bool _ | int _ | float _ | string _ | list _ =>
    fun _ _ _ _ _ h => h.elim

theorem commutes_of_get? : ∀ (bs : List (String × Value)) {k : String} {v : Value},
    Table.get? bs k = some v → v.Commutes
  | (k', v') :: rest, k, v, hv => by
    have hfirst := commutes v'
    rw [Table.get?_cons] at hv
    split at hv
    · cases hv
      exact hfirst
    · exact commutes_of_get? rest hv

end

/-- **Independent merges commute.** If two objects are compatible, it does not matter which of
them is merged first, whatever they are merged into: the two results differ in the order of the
entries of objects at most. So they are equal, unless they contain what is not equal to itself. -/
theorem merge_comm_of_compatible {a b c : Value} (ha : a.Distinct) (hb : b.Distinct)
    (hc : c.Distinct) (h : b.Compatible c) :
    ((a.merge b).merge c).Alike ((a.merge c).merge b) ∧
      (((a.merge b).merge c).same ((a.merge b).merge c) = true →
        ((a.merge b).merge c).same ((a.merge c).merge b) = true) := by
  have halike := commutes b a c ha hb hc h
  exact ⟨halike, halike.same ((ha.merge hb).merge hc)⟩

/-- Both objects bring something under `p`, where there is a list, and change the object under
`q`; one removes `x`, and the other the entry `u` inside `q`. The two results list the entries
under `p` in different orders. -/
theorem merge_comm_of_compatible_shared :
    let a := object [("x", int 1), ("p", list [int 1]), ("q", object [("u", int 1)])]
    let b := object [("p", object [("s", list [deletion, int 2])]), ("q", object [("u", deletion)])]
    let c := object [("p", object [("t", int 3)]), ("x", deletion), ("q", object [("v", int 2)])]
    let bThenC := object [("p", object [("s", list [int 2]), ("t", int 3)]),
      ("q", object [("v", int 2)])]
    let cThenB := object [("p", object [("t", int 3), ("s", list [int 2])]),
      ("q", object [("v", int 2)])]
    a.Distinct ∧ b.Distinct ∧ c.Distinct ∧ b.Compatible c ∧
      (a.merge b).merge c = bThenC ∧ (a.merge c).merge b = cThenB ∧
      ((a.merge b).merge c).Alike ((a.merge c).merge b) ∧ bThenC.same cThenB = true := by
  intro a b c bThenC cThenB
  have hnames : ∀ t : Table Value, (Table.names t).Nodup → t.Distinct := fun _ h => h
  have ha : a.Distinct :=
    ⟨hnames _ (by decide), trivial, ⟨trivial, trivial⟩, ⟨hnames _ (by decide), trivial, trivial⟩,
      trivial⟩
  have hb : b.Distinct :=
    ⟨hnames _ (by decide), ⟨hnames _ (by decide), ⟨trivial, trivial, trivial⟩, trivial⟩,
      ⟨hnames _ (by decide), trivial, trivial⟩, trivial⟩
  have hc : c.Distinct :=
    ⟨hnames _ (by decide), ⟨hnames _ (by decide), trivial, trivial⟩, trivial,
      ⟨hnames _ (by decide), trivial, trivial⟩, trivial⟩
  have hcompatible : b.Compatible c := by
    refine ⟨fun w hw => ?_, fun w hw => ?_, trivial⟩
    · obtain rfl : object [("t", int 3)] = w := Option.some.inj hw
      exact ⟨fun _ hs => absurd hs (by simp [Table.get?]), trivial⟩
    · obtain rfl : object [("v", int 2)] = w := Option.some.inj hw
      exact ⟨fun _ hu => absurd hu (by simp [Table.get?]), trivial⟩
  have hleft : (a.merge b).merge c = bThenC := rfl
  have hright : (a.merge c).merge b = cThenB := rfl
  obtain ⟨halike, hsame⟩ := merge_comm_of_compatible ha hb hc hcompatible
  refine ⟨ha, hb, hc, hcompatible, hleft, hright, halike, ?_⟩
  rw [hleft, hright] at hsame
  exact hsame (by decide)

end Graft.Value
