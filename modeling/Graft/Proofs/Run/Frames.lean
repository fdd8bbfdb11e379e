import Graft.Run.Scope

/-!
The store of frames, and the environments that are chains of its frames.

Frames are opened and names are bound in them; nothing is ever taken away. So a store only
grows, and an environment of a store stays one. What a name means in an environment is found
by going through its frames in turn, and is put together here from what the frames bind.
-/

set_option autoImplicit false

namespace Graft

namespace Frames

/-! ## Opening and binding -/

theorem size_fresh (s : Frames) : s.fresh.2.size = s.size + 1 :=
  Array.size_push _

theorem size_bind (s : Frames) (id : FrameId) (name : String) (v : Value) :
    (s.bind id name v).size = s.size :=
  Array.size_modify

/-- What is no frame of a store has no bindings. -/
theorem bindings_of_le {s : Frames} {id : FrameId} (h : s.size ≤ id) :
    s.bindings id = [] := by
  rw [Frames.bindings, Array.getD_eq_getD_getElem?, Array.getElem?_eq_none h]
  rfl

/-- A new frame is empty, and so is what is no frame. -/
theorem bindings_fresh (s : Frames) (id : FrameId) :
    s.fresh.2.bindings id = s.bindings id := by
  simp only [Frames.fresh, Frames.bindings, Array.getD_eq_getD_getElem?, Array.getElem?_push]
  by_cases h : id = s.frames.size
  · rw [if_pos h, Array.getElem?_eq_none (Nat.le_of_eq h.symm)]
    rfl
  · rw [if_neg h]

/-- A frame that has been opened is there. -/
theorem size_lt_fresh (s : Frames) : s.size < s.fresh.2.size := by
  rw [size_fresh]
  exact Nat.lt_succ_self _

/-- Nothing is bound in a frame that has been opened. -/
theorem bindings_fresh_self (s : Frames) : s.fresh.2.bindings s.size = [] := by
  rw [bindings_fresh, bindings_of_le (Nat.le_refl _)]

/-- Binding a name changes one frame, if it is there. -/
theorem bindings_bind (s : Frames) (id other : FrameId) (name : String) (v : Value) :
    (s.bind id name v).bindings other =
      if id = other ∧ id < s.size then Table.insert (s.bindings id) name v
      else s.bindings other := by
  simp only [Frames.bind, Frames.bindings, Frames.size, Array.getD_eq_getD_getElem?,
    Array.getElem?_modify]
  by_cases h : id = other
  · subst h
    by_cases hid : id < s.frames.size
    · simp [hid]
    · simp [hid]
  · simp [h]

/-! ## Lookups -/

/-- Whether a name is bound in a frame. -/
def Binds (s : Frames) (id : FrameId) (name : String) : Prop :=
  Table.has (s.bindings id) name = true

theorem find?_cons (s : Frames) (name : String) (id : FrameId) (rest : List FrameId) :
    s.find? name (id :: rest) = (Table.get? (s.bindings id) name).or (s.find? name rest) := by
  rw [find?]
  cases Table.get? (s.bindings id) name <;> rfl

theorem find?_append (s : Frames) (name : String) (ids others : List FrameId) :
    s.find? name (ids ++ others) = (s.find? name ids).or (s.find? name others) := by
  induction ids with
  | nil => rfl
  | cons id rest ih => rw [List.cons_append, find?_cons, find?_cons, ih, Option.or_assoc]

/-- A name is not found where no frame binds it. -/
theorem find?_eq_none_iff {s : Frames} {name : String} {ids : List FrameId} :
    s.find? name ids = none ↔ ∀ id ∈ ids, ¬ s.Binds id name := by
  induction ids with
  | nil => simp [find?]
  | cons id rest ih =>
    rw [find?_cons, Option.or_eq_none_iff, ih, List.forall_mem_cons, Binds, Table.has,
      Option.not_isSome_iff_eq_none]

/-- What the frames of a list bind a name to is all that looking the name up depends on. -/
theorem find?_congr {s s' : Frames} {name : String} {ids : List FrameId}
    (h : ∀ id ∈ ids, Table.get? (s'.bindings id) name = Table.get? (s.bindings id) name) :
    s'.find? name ids = s.find? name ids := by
  induction ids with
  | nil => rfl
  | cons id rest ih =>
    rw [find?_cons, find?_cons, h id List.mem_cons_self,
      ih fun other hother => h other (List.mem_cons_of_mem _ hother)]

/-! ## Growth -/

/-- All frames of one store are in another, with all the names that are bound in them. -/
structure Grows (s s' : Frames) : Prop where
  size : s.size ≤ s'.size
  names : ∀ {id : FrameId} {name : String}, s.Binds id name → s'.Binds id name

namespace Grows

theorem refl (s : Frames) : s.Grows s := ⟨Nat.le_refl _, id⟩

theorem trans {s s' s'' : Frames} (h : s.Grows s') (h' : s'.Grows s'') : s.Grows s'' :=
  ⟨Nat.le_trans h.size h'.size, fun hn => h'.names (h.names hn)⟩

theorem fresh (s : Frames) : s.Grows s.fresh.2 where
  size := by
    rw [size_fresh]
    exact Nat.le_succ _
  names hn := by
    rw [Binds, bindings_fresh]
    exact hn

theorem bind (s : Frames) (id : FrameId) (name : String) (v : Value) :
    s.Grows (s.bind id name v) where
  size := Nat.le_of_eq (size_bind s id name v).symm
  names {other x} hn := by
    rw [Binds, bindings_bind]
    split
    · rename_i h
      obtain ⟨rfl, -⟩ := h
      rw [Table.has, Table.get?_insert]
      split
      · rfl
      · exact hn
    · exact hn

end Grows

/-! ## Binding what a table holds -/

/-- Binds the entries of a table in a frame. -/
def bindAll (s : Frames) (id : FrameId) (t : Table Value) : Frames :=
  t.foldl (fun s e => s.bind id e.1 e.2) s

theorem grows_bindAll (s : Frames) (id : FrameId) (t : Table Value) : s.Grows (s.bindAll id t) := by
  induction t generalizing s with
  | nil => exact .refl s
  | cons e rest ih => exact (Grows.bind s id e.1 e.2).trans (ih _)

theorem bindings_bindAll_of_ne (s : Frames) {id other : FrameId} (h : other ≠ id)
    (t : Table Value) : (s.bindAll id t).bindings other = s.bindings other := by
  induction t generalizing s with
  | nil => rfl
  | cons e rest ih =>
    show ((s.bind id e.1 e.2).bindAll id rest).bindings other = _
    rw [ih, bindings_bind, if_neg fun hc => h hc.1.symm]

/-- The entries of a table go over what a frame has bound. -/
theorem get?_bindAll {s : Frames} {id : FrameId} (hid : id < s.size) {t : Table Value}
    (ht : t.Distinct) (name : String) : Table.get? ((s.bindAll id t).bindings id) name =
      (Table.get? t name).or (Table.get? (s.bindings id) name) := by
  induction t generalizing s with
  | nil => rfl
  | cons e rest ih =>
    obtain ⟨k, v⟩ := e
    obtain ⟨hk, hrest⟩ := List.nodup_cons.mp ht
    show Table.get? (((s.bind id k v).bindAll id rest).bindings id) name = _
    rw [ih (by rw [size_bind]; exact hid) hrest, bindings_bind, if_pos ⟨rfl, hid⟩,
      Table.get?_insert, Table.get?]
    split
    · -- The name is bound here, and no later entry has it.
      rename_i hkn
      subst hkn
      have hnone : Table.get? rest k = none := by
        rw [← Option.not_isSome_iff_eq_none]
        exact fun hsome => hk ((Table.mem_names_iff rest k).mpr hsome)
      rw [hnone]
      rfl
    · rfl

end Frames

/-! ## Environments -/

namespace Environment

/-- The frames around the innermost one. -/
def around (env : Environment) : List FrameId :=
  env.inner.tail ++ [env.global]

theorem child_eq {env : Environment} {global : FrameId} (s : Frames)
    (h : env.global = global) : (env.child s).1 = ⟨global, s.size :: env.inner⟩ := by
  subst h
  rfl

/-- From the global frame inward, the frames around a block come before it. -/
theorem inward_append (global block : FrameId) (inner outer : List FrameId) :
    inward ⟨global, inner ++ block :: outer⟩ =
      (global :: outer.reverse) ++ (block :: inner.reverse) := by
  rw [inward, List.reverse_append, List.reverse_cons, List.append_assoc]
  rfl

/-- What no frame around a block binds is looked up in the block, and then further inward. -/
theorem findInward?_of_unbound {s : Frames} {global block : FrameId}
    {outer : List FrameId} {x : String} (h : ∀ id ∈ outer ++ [global], ¬ s.Binds id x)
    (inner : List FrameId) : findInward? ⟨global, inner ++ block :: outer⟩ s x =
      (Table.get? (s.bindings block) x).or (s.find? x inner.reverse) := by
  have haround : s.find? x (global :: outer.reverse) = none := by
    refine Frames.find?_eq_none_iff.mpr fun id hid => h id ?_
    rcases List.mem_cons.mp hid with rfl | hid
    · exact List.mem_append_right _ List.mem_cons_self
    · exact List.mem_append_left _ (List.mem_reverse.mp hid)
  rw [findInward?, inward_append, Frames.find?_append, haround, Option.none_or, Frames.find?_cons]

/-- An environment of the store: its frames are there, and none occurs twice. -/
structure Within (env : Environment) (s : Frames) : Prop where
  nodup : env.outward.Nodup
  bound : ∀ id ∈ env.outward, id < s.size

namespace Within

theorem start (s : Frames) : (start s).1.Within (start s).2 where
  nodup := List.pairwise_singleton _ _
  bound id hid := by
    obtain rfl := List.mem_singleton.mp hid
    exact s.size_lt_fresh

variable {env : Environment} {s : Frames}

/-- A frame that is opened inside an environment is a new one. -/
theorem child (h : env.Within s) : (env.child s).1.Within (env.child s).2 where
  nodup := List.nodup_cons.mpr ⟨fun hid => Nat.lt_irrefl _ (h.bound _ hid), h.nodup⟩
  bound id hid := by
    show id < s.fresh.2.size
    rw [Frames.size_fresh]
    rcases List.mem_cons.mp hid with rfl | hid
    · exact Nat.lt_succ_self _
    · exact Nat.lt_succ_of_lt (h.bound id hid)

/-- From the global frame inward, an environment has the same frames as outward. -/
theorem bound_inward (h : env.Within s) : ∀ id ∈ env.inward, id < s.size := by
  intro id hid
  refine h.bound id ?_
  rcases List.mem_cons.mp hid with rfl | hid
  · exact List.mem_append_right _ List.mem_cons_self
  · exact List.mem_append_left _ (List.mem_reverse.mp hid)

theorem globalScope (h : env.Within s) : env.globalScope.Within s where
  nodup := List.pairwise_singleton _ _
  bound id hid := h.bound id (List.mem_append_right _ hid)

theorem grows {s' : Frames} (h : env.Within s) (hs : s.Grows s') : env.Within s' :=
  ⟨h.nodup, fun id hid => Nat.lt_of_lt_of_le (h.bound id hid) hs.size⟩

end Within

end Environment

end Graft
