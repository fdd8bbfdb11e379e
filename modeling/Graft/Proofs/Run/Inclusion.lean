import Graft.Proofs.Run.Flow
import Graft.Proofs.Run.Mirroring

/-!
Inclusion of a mixin, against its body in place.

An inclusion runs the body of a mixin in a frame of its own, inside the frame of the block,
and hands the bindings over at the end. Written in place, the same statements bind in the
frame of the block at once. While the body runs, the two differ by that one frame: where the
run in place has the frame of the block, the inclusion has the mixin's frame and, around it,
the frame of the block as it was. `%name` cannot tell the difference, since it looks at the
mixin's frame first. `$name` comes from the other side: it finds what the block had bound
before it finds what the mixin has bound anew, unless a frame further out binds the name.
-/

set_option autoImplicit false

namespace Graft

/-! ## The two stores

The store from which both runs begin is `s`, and `block` is the innermost frame there. The
inclusion is the run on the left, and its mixin's frame is the first that is opened: it takes
the place `s.size`, and all later frames of the left run are one place behind those of the
right run. -/

namespace Inclusion

section

variable (s : Frames) (block : Nat)

/-- The frame in which the left run binds what the right run binds in a frame. -/
def moved (id : Nat) : Nat :=
  if id = block then s.size else if id < s.size then id else id + 1

/-- The frames of the left run for frames of the right one: with the frame of the block comes
the mixin's frame inside it. -/
def widened : List Nat → List Nat
  | [] => []
  | id :: rest =>
    if id = block then s.size :: block :: widened rest else moved s block id :: widened rest

/-- The stores of the two runs. The right run has the bindings of the mixin's frame over those
that the block had, and both have the same bindings everywhere else. -/
structure Split (s₁ s₂ : Frames) : Prop where
  grown : s.Grows s₁
  size : s₁.size = s₂.size + 1
  own : s.size < s₁.size
  apart : ∀ {id : Nat}, id ≠ block → s₁.bindings (moved s block id) = s₂.bindings id
  kept : s₁.bindings block = s.bindings block
  distinct : (s₁.bindings s.size).Distinct
  joined : ∀ name : String, Table.get? (s₂.bindings block) name =
    (Table.get? (s₁.bindings s.size) name).or (Table.get? (s.bindings block) name)

end

variable {s s₁ s₂ : Frames} {block : Nat}

theorem moved_block : moved s block block = s.size :=
  if_pos rfl

theorem moved_of_lt {id : Nat} (hid : id ≠ block) (hlt : id < s.size) : moved s block id = id := by
  rw [moved, if_neg hid, if_pos hlt]

theorem moved_of_le (hblock : block < s.size) {id : Nat} (hle : s.size ≤ id) :
    moved s block id = id + 1 := by
  rw [moved, if_neg (by omega), if_neg (by omega)]

/-- The left run binds nothing in the frame of the block. -/
theorem moved_ne_block (hblock : block < s.size) (id : Nat) : moved s block id ≠ block := by
  rw [moved]
  split
  · omega
  · split <;> omega

/-- In the mixin's frame it binds what the right run binds in the frame of the block. -/
theorem moved_eq_size_iff (hblock : block < s.size) {id : Nat} :
    moved s block id = s.size ↔ id = block := by
  rw [moved]
  split
  · simp [*]
  · split <;> omega

theorem moved_inj (hblock : block < s.size) {id other : Nat}
    (h : moved s block id = moved s block other) : id = other := by
  by_cases hid : id = block
  · subst hid
    rw [moved_block] at h
    exact ((moved_eq_size_iff hblock).mp h.symm).symm
  · by_cases hother : other = block
    · subst hother
      rw [moved_block] at h
      exact (moved_eq_size_iff hblock).mp h
    · simp only [moved, if_neg hid, if_neg hother] at h
      split at h <;> split at h <;> omega

theorem widened_append (ids others : List Nat) :
    widened s block (ids ++ others) = widened s block ids ++ widened s block others := by
  induction ids with
  | nil => rfl
  | cons id rest ih =>
    rw [List.cons_append, widened, widened, ih]
    split <;> rfl

/-- Frames apart from that of the block are only moved. -/
theorem widened_of_notMem {ids : List Nat} (h : block ∉ ids) :
    widened s block ids = ids.map (moved s block) := by
  induction ids with
  | nil => rfl
  | cons id rest ih =>
    have hid : ¬ id = block := fun heq => h (heq ▸ List.mem_cons_self)
    rw [widened, if_neg hid, ih fun hmem => h (List.mem_cons_of_mem _ hmem), List.map_cons]

namespace Split

theorem refl (hblock : block < s.size) : Split s block s.fresh.2 s where
  grown := .fresh s
  size := Frames.size_fresh s
  own := s.size_lt_fresh
  apart {id} hid := by
    rw [Frames.bindings_fresh]
    by_cases hlt : id < s.size
    · rw [moved_of_lt hid hlt]
    · -- There is no such frame yet on either side.
      rw [moved_of_le hblock (Nat.not_lt.mp hlt), Frames.bindings_of_le (Nat.not_lt.mp hlt),
        Frames.bindings_of_le (Nat.le_succ_of_le (Nat.not_lt.mp hlt))]
  kept := Frames.bindings_fresh s block
  distinct := by
    rw [Frames.bindings_fresh_self]
    exact List.Pairwise.nil
  joined name := by
    rw [Frames.bindings_fresh_self]
    rfl

theorem opened (h : Split s block s₁ s₂) : Split s block s₁.fresh.2 s₂.fresh.2 where
  grown := h.grown.trans (.fresh _)
  size := by rw [Frames.size_fresh, Frames.size_fresh, h.size]
  own := by
    rw [Frames.size_fresh]
    exact Nat.lt_succ_of_lt h.own
  apart hid := by
    rw [Frames.bindings_fresh, Frames.bindings_fresh]
    exact h.apart hid
  kept := by
    rw [Frames.bindings_fresh]
    exact h.kept
  distinct := by
    rw [Frames.bindings_fresh]
    exact h.distinct
  joined name := by
    rw [Frames.bindings_fresh, Frames.bindings_fresh]
    exact h.joined name

/-- A frame is there on the right if the one it was moved to is there on the left. -/
theorem moved_lt_iff (h : Split s block s₁ s₂) (hblock : block < s.size) {id : Nat} :
    moved s block id < s₁.size ↔ id < s₂.size := by
  have hsize := h.size
  have hown := h.own
  rw [moved]
  split
  · omega
  · split <;> omega

/-- Names are bound in the mixin's frame on the left where they are bound in the frame of the
block on the right, and otherwise in the same frame. -/
theorem bind (h : Split s block s₁ s₂) (hblock : block < s.size) (id : Nat) (name : String)
    (v : Value) : Split s block (s₁.bind (moved s block id) name v) (s₂.bind id name v) where
  grown := h.grown.trans (.bind _ _ _ _)
  size := by rw [Frames.size_bind, Frames.size_bind, h.size]
  own := by
    rw [Frames.size_bind]
    exact h.own
  apart {other} hother := by
    rw [Frames.bindings_bind, Frames.bindings_bind]
    -- Where the right run binds in another frame, so does the left run.
    by_cases hid : id = other
    · subst hid
      simp only [h.moved_lt_iff hblock, h.apart hother]
    · rw [if_neg fun hc => hid (moved_inj hblock hc.1), if_neg fun hc => hid hc.1,
        h.apart hother]
  kept := by
    rw [Frames.bindings_bind, if_neg fun hc => moved_ne_block hblock id hc.1]
    exact h.kept
  distinct := by
    rw [Frames.bindings_bind]
    split
    · rename_i hc
      rw [hc.1]
      exact h.distinct.insert name v
    · exact h.distinct
  joined x := by
    rw [Frames.bindings_bind, Frames.bindings_bind]
    -- What is bound anew in the block is bound in the mixin's frame, over what the block had.
    simp only [h.moved_lt_iff hblock, moved_eq_size_iff hblock]
    split
    · rename_i hc
      obtain ⟨rfl, -⟩ := hc
      rw [Table.get?_insert, Table.get?_insert, moved_block, h.joined]
      split <;> rfl
    · exact h.joined x

/-- Apart from the frame of the block, the same is found in moved frames. -/
theorem find?_moved (h : Split s block s₁ s₂) (name : String) {ids : List Nat}
    (hids : block ∉ ids) : s₁.find? name (ids.map (moved s block)) = s₂.find? name ids := by
  induction ids with
  | nil => rfl
  | cons id rest ih =>
    have hid : id ≠ block := fun heq => hids (heq ▸ List.mem_cons_self)
    rw [List.map_cons, Frames.find?_cons, Frames.find?_cons, h.apart hid,
      ih fun hmem => hids (List.mem_cons_of_mem _ hmem)]

/-- Where the frame of the block is looked at first, the same is found for a name that is not
bound in both. -/
theorem find?_block (h : Split s block s₁ s₂) {name : String} {ids : List Nat} (hids : block ∉ ids)
    (hnot : ¬ (s₁.Binds s.size name ∧ s.Binds block name)) :
    s₁.find? name (block :: s.size :: ids.map (moved s block)) = s₂.find? name (block :: ids) := by
  rw [Frames.find?_cons, Frames.find?_cons, Frames.find?_cons, h.find?_moved name hids, h.joined,
    h.kept]
  simp only [Frames.Binds, Table.has] at hnot
  -- The first frame that is looked at is that of the block on the left, and has the mixin's
  -- bindings over those of the block on the right.
  cases hm : Table.get? (s₁.bindings s.size) name with
  | none => simp
  | some v =>
    cases hb : Table.get? (s.bindings block) name with
    | none => simp
    | some w => simp [hm, hb] at hnot

/-- Where the mixin's frame is looked at before the frame of the block, the same is found. -/
theorem find?_widened (h : Split s block s₁ s₂) (name : String) (ids : List Nat) :
    s₁.find? name (widened s block ids) = s₂.find? name ids := by
  induction ids with
  | nil => rfl
  | cons id rest ih =>
    rw [widened]
    split
    · rename_i hid
      subst hid
      rw [Frames.find?_cons, Frames.find?_cons, Frames.find?_cons, h.joined, h.kept, ih,
        Option.or_assoc]
    · rename_i hid
      rw [Frames.find?_cons, Frames.find?_cons, h.apart hid, ih]

end Split

/-! ## The two environments -/

/-- Names that the mixin binds are not bound in the frame of the block, unless a frame around
the block binds them. -/
def Unhidden (s : Frames) (env : Environment) (s₁ : Frames) : Prop :=
  ∀ name : String, s₁.Binds s.size name → s.Binds env.innermost name →
    ∃ id ∈ env.around, s.Binds id name

section

variable (s : Frames) (global block : Nat) (outer : List Nat)

/-- Environments of the two runs, with frames that were opened on the way inside the block or
inside the global frame alone. -/
structure Envs (env₁ env₂ : Environment) : Prop where
  left : env₁.global = global
  right : env₂.global = global
  inner : env₁.inner = widened s block env₂.inner
  shape : ∃ ids : List Nat, block ∉ ids ∧ (env₂.inner = ids ∨ env₂.inner = ids ++ block :: outer)

/-- Environments of the two runs whose innermost frames were opened on the way. -/
structure Fresh (env₁ env₂ : Environment) : Prop where
  envs : Envs s global block outer env₁ env₂
  opened : s.size ≤ env₂.innermost ∧ env₂.inner ≠ []

end

variable {global : Nat} {outer : List Nat} {env₁ env₂ : Environment}
  (henv : Environment.Within ⟨global, block :: outer⟩ s)

include henv

theorem block_lt : block < s.size :=
  henv.bound block List.mem_cons_self

theorem block_notMem : block ∉ outer := fun h =>
  (List.nodup_cons.mp henv.nodup).1 (List.mem_append_left _ h)

theorem global_ne : global ≠ block := fun h =>
  (List.nodup_cons.mp henv.nodup).1 (List.mem_append_right _ (h ▸ List.mem_cons_self))

theorem moved_global : moved s block global = global :=
  moved_of_lt (global_ne henv)
    (henv.bound global (List.mem_cons_of_mem _ (List.mem_append_right _ List.mem_cons_self)))

/-- What no frame around the block binds is not bound by both the mixin and the block. -/
theorem Split.not_both (hs : Split s block s₁ s₂)
    (hgood : Unhidden s ⟨global, block :: outer⟩ s₁) {name : String}
    (hfound : s₂.find? name (global :: outer.reverse) = none) :
    ¬ (s₁.Binds s.size name ∧ s.Binds block name) := by
  rintro ⟨hmixin, hbound⟩
  obtain ⟨id, hid, hbinds⟩ := hgood name hmixin hbound
  have hne : id ≠ block := fun heq => (List.nodup_cons.mp henv.nodup).1 (heq ▸ hid)
  have hlt : id < s.size := henv.bound id (List.mem_cons_of_mem _ hid)
  have hsame := hs.apart hne
  rw [moved_of_lt hne hlt] at hsame
  have hbinds₂ : s₂.Binds id name := by
    rw [Frames.Binds, ← hsame]
    exact hs.grown.names hbinds
  refine Frames.find?_eq_none_iff.mp hfound id ?_ hbinds₂
  rcases List.mem_append.mp hid with hid | hid
  · exact List.mem_cons_of_mem _ (List.mem_reverse.mpr hid)
  · obtain rfl := List.mem_singleton.mp hid
    exact List.mem_cons_self

namespace Envs

theorem innermost_eq (h : Envs s global block outer env₁ env₂) :
    env₁.innermost = moved s block env₂.innermost := by
  have hinner := h.inner
  rw [Environment.innermost, Environment.innermost, hinner, h.left, h.right]
  cases env₂.inner with
  | nil => exact (moved_global henv).symm
  | cons id rest =>
    rw [widened]
    split
    · rename_i hid
      rw [hid]
      exact moved_block.symm
    · rfl

/-- Where the body of the mixin begins: inside the mixin's frame on the left, and in the block
on the right. -/
theorem start : Envs s global block outer ⟨global, s.size :: block :: outer⟩
    ⟨global, block :: outer⟩ where
  left := rfl
  right := rfl
  inner := by
    have houter : outer.map (moved s block) = outer := by
      refine (List.map_congr_left fun id hid => ?_).trans (List.map_id outer)
      have hne : id ≠ block := fun heq => block_notMem henv (heq ▸ hid)
      exact moved_of_lt hne
        (henv.bound id (List.mem_cons_of_mem _ (List.mem_append_left _ hid)))
    rw [widened, if_pos rfl, widened_of_notMem (block_notMem henv), houter]
  shape := ⟨[], List.not_mem_nil, .inr rfl⟩

theorem push (h : Envs s global block outer env₁ env₂) {id : Nat} (hid : s.size ≤ id) :
    Envs s global block outer ⟨global, (id + 1) :: env₁.inner⟩ ⟨global, id :: env₂.inner⟩ where
  left := rfl
  right := rfl
  inner := by
    have hblock := block_lt henv
    have hne : ¬ id = block := by omega
    rw [widened, if_neg hne, moved_of_le hblock hid, h.inner]
  shape := by
    have hblock := block_lt henv
    obtain ⟨ids, hids, hshape⟩ := h.shape
    refine ⟨id :: ids, ?_, ?_⟩
    · rintro hmem
      rcases List.mem_cons.mp hmem with heq | hmem
      · omega
      · exact hids hmem
    · rcases hshape with hshape | hshape
      · exact .inl (congrArg (id :: ·) hshape)
      · exact .inr (congrArg (id :: ·) hshape)

theorem fresh (h : Envs s global block outer env₁ env₂) {id : Nat} (hid : s.size ≤ id) :
    Fresh s global block outer ⟨global, (id + 1) :: env₁.inner⟩ ⟨global, id :: env₂.inner⟩ :=
  ⟨h.push henv hid, hid, List.cons_ne_nil _ _⟩

/-- `%name` means the same on both sides. -/
theorem findOutward?_eq (h : Envs s global block outer env₁ env₂) (hs : Split s block s₁ s₂)
    (name : String) : env₁.findOutward? s₁ name = env₂.findOutward? s₂ name := by
  have hglobal := hs.apart (global_ne henv)
  rw [moved_global henv] at hglobal
  rw [Environment.findOutward?, Environment.findOutward?, Environment.outward,
    Environment.outward, h.inner, h.left, h.right, Frames.find?_append, Frames.find?_append,
    hs.find?_widened, Frames.find?_cons, Frames.find?_cons, hglobal]
  rfl

/-- The frames from the global one inward. Inside the including block, the left run looks at the
frame of that block before it looks at the mixin's. -/
theorem inward_eq (h : Envs s global block outer env₁ env₂) :
    ∃ ids : List Nat, block ∉ ids ∧
      ((env₁.inward = global :: ids.map (moved s block) ∧ env₂.inward = global :: ids) ∨
        (env₁.inward = (global :: outer.reverse.map (moved s block)) ++
            (block :: s.size :: ids.map (moved s block)) ∧
          env₂.inward = (global :: outer.reverse) ++ (block :: ids))) := by
  obtain ⟨ids, hids, hshape⟩ := h.shape
  refine ⟨ids.reverse, by rwa [List.mem_reverse], ?_⟩
  rw [Environment.inward, Environment.inward, h.inner, h.left, h.right]
  rcases hshape with hinner | hinner
  · left
    rw [hinner, widened_of_notMem hids, List.map_reverse]
    exact ⟨rfl, rfl⟩
  · right
    refine ⟨?_, ?_⟩
    · rw [hinner, widened_append, widened, if_pos rfl, widened_of_notMem hids,
        widened_of_notMem (block_notMem henv), List.append_cons, List.map_reverse,
        List.map_reverse]
      refine (Environment.inward_append global block _ _).trans ?_
      rw [List.reverse_append]
      rfl
    · rw [hinner]
      exact Environment.inward_append global block ids outer

/-- `$name` means the same on both sides, as long as the mixin binds nothing that the frame of
the block hides. -/
theorem findInward?_eq (h : Envs s global block outer env₁ env₂) (hs : Split s block s₁ s₂)
    (hgood : Unhidden s ⟨global, block :: outer⟩ s₁) (name : String) :
    env₁.findInward? s₁ name = env₂.findInward? s₂ name := by
  have hglobal := hs.apart (global_ne henv)
  rw [moved_global henv] at hglobal
  obtain ⟨ids, hids, hinward⟩ := h.inward_eq henv
  have hfresh := hs.find?_moved name hids
  rw [Environment.findInward?, Environment.findInward?]
  rcases hinward with ⟨hleft, hright⟩ | ⟨hleft, hright⟩
  · rw [hleft, hright, Frames.find?_cons, Frames.find?_cons, hglobal, hfresh]
  · have houter : s₁.find? name (outer.reverse.map (moved s block)) = s₂.find? name outer.reverse :=
      hs.find?_moved name (by rw [List.mem_reverse]; exact block_notMem henv)
    have haround : s₁.find? name (global :: outer.reverse.map (moved s block)) =
        s₂.find? name (global :: outer.reverse) := by
      rw [Frames.find?_cons, Frames.find?_cons, hglobal, houter]
    rw [hleft, hright, Frames.find?_append, Frames.find?_append, haround]
    cases hfound : s₂.find? name (global :: outer.reverse) with
    | some v => rfl
    | none =>
      -- Only here does it matter in which order the two frames of the left run are looked at.
      have hnot := hs.not_both henv hgood hfound
      exact hs.find?_block hids hnot

end Envs

/-- Everything else is on its own in the right run, and the same. -/
theorem Fresh.declared_eq (h : Fresh s global block outer env₁ env₂) (hs : Split s block s₁ s₂) :
    env₁.declared s₁ = env₂.declared s₂ := by
  have hblock := block_lt henv
  have hopened := h.opened.1
  rw [Environment.declared, Environment.declared, h.envs.innermost_eq henv]
  exact hs.apart fun heq => by
    rw [heq] at hopened
    omega

end Inclusion

/-- A halt at a limit. -/
def Halt.AtLimit : Halt → Prop
  | .failed f => f.cause.trouble = .limit
  | _ => False

/-- The inclusion of a mixin on the left, against its body in place on the right, from a store
in which the environment is a block. -/
def Mirror.inclusion (p : Provision) {s : Frames} {global block : Nat} {outer : List Nat}
    (henv : Environment.Within ⟨global, block :: outer⟩ s) : Mirror where
  left := p
  right := p
  base := s.fresh.2
  frames := Inclusion.Split s block
  envs := Inclusion.Envs s global block outer
  fresh := Inclusion.Fresh s global block outer
  good := Inclusion.Unhidden s ⟨global, block :: outer⟩
  excused := Halt.AtLimit
  akin := p.akin_self Halt.AtLimit
  good_of_grows h hgood name hn := hgood name (h.names hn)
  envs_of_fresh h := h.envs
  globalScope h := ⟨h.left, h.right, rfl, [], List.not_mem_nil, .inl rfl⟩
  child {s₁ env₁ env₂} hs h := by
    have hsize := hs.size
    rw [Frames.size_fresh] at hsize
    -- The right run is one frame behind, because of the mixin's frame.
    obtain ⟨id, hid⟩ : ∃ id, s₁.size = id + 1 := ⟨s₁.size - 1, by omega⟩
    have hle : s.size ≤ id := by omega
    have hfresh := h.fresh henv hle
    rw [← hid] at hfresh
    exact ⟨_, (Environment.child_eq s₁ h.left).symm ▸ hfresh⟩
  opened {s₁ s₂ env₁ env₂} hs h := by
    have hsize := hs.size
    have hown := hs.own
    have hle : s.size ≤ s₂.size := by omega
    have hfresh := h.fresh henv hle
    rw [← hsize] at hfresh
    refine ⟨hs.opened, ?_⟩
    rw [Environment.child_eq s₁ h.left, Environment.child_eq s₂ h.right]
    exact hfresh
  declare name v hs h := by
    rw [Environment.declare, Environment.declare, h.innermost_eq henv]
    exact hs.bind (Inclusion.block_lt henv) _ name v
  inward name hs hgood h := h.findInward?_eq henv hs hgood name
  outward name hs _ h := h.findOutward?_eq henv hs name
  declared hs h := h.declared_eq henv hs

end Graft
