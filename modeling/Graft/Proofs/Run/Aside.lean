import Graft.Proofs.Run.Atomicity
import Graft.Proofs.Run.Mirroring

/-!
Frames that were opened on the side.

An evaluation leaves nothing behind but frames that no one holds any more. What is run behind it
gets other places for the frames that it opens, and that is all the difference: lookups go along
the chain of an environment, and the chains pass over the frames on the side.

So a run is compared with the same run behind so many further frames. Frames that were there
before are in the same place on both sides, and those that are opened later are so many places
further on. That is a mirror in which nothing has to be excused. A closure whose scopes were there
before thus ends in the same way, in a value or in a halt.
-/

set_option autoImplicit false

namespace Graft

/-! ## Frames in other places -/

/-- The environment with its frames in other places. -/
def Environment.moved (place : FrameId → FrameId) (env : Environment) : Environment :=
  ⟨place env.global, env.inner.map place⟩

namespace Environment

variable (place : FrameId → FrameId) (env : Environment)

/-- The innermost frame of a moved environment is the moved one. -/
theorem innermost_moved : (env.moved place).innermost = place env.innermost := by
  obtain ⟨global, inner⟩ := env
  cases inner with
  | nil => rfl
  | cons id rest => rfl

theorem outward_moved : (env.moved place).outward = env.outward.map place := by
  rw [outward, outward, List.map_append]
  rfl

theorem inward_moved : (env.moved place).inward = env.inward.map place := by
  rw [inward, inward, List.map_cons, List.map_reverse]
  rfl

/-- An environment whose frames stay in their places stays the same. -/
theorem moved_eq_self {place : FrameId → FrameId} {env : Environment}
    (h : ∀ id ∈ env.outward, place id = id) : env.moved place = env := by
  obtain ⟨global, inner⟩ := env
  have hglobal : place global = global := h _ (List.mem_append_right _ List.mem_cons_self)
  have hinner : inner.map place = inner :=
    (List.map_congr_left fun id hid => h id (List.mem_append_left _ hid)).trans (List.map_id' inner)
  rw [moved, hglobal, hinner]

end Environment

/-- The place of a frame when `k` frames were opened where there were `b`. -/
def Frames.past (b k id : Nat) : Nat :=
  if id < b then id else id + k

theorem Frames.past_of_lt {b id : Nat} (k : Nat) (h : id < b) : past b k id = id :=
  if_pos h

theorem Frames.past_of_le {b id : Nat} (k : Nat) (h : b ≤ id) : past b k id = id + k :=
  if_neg (Nat.not_lt.mpr h)

/-- No two frames are moved to one place. -/
theorem Frames.past_inj {b k id other : Nat} : past b k id = past b k other ↔ id = other := by
  constructor
  · intro h
    unfold past at h
    split at h <;> split at h <;> omega
  · exact congrArg _

/-- The frames of the first store are in the second one, where `k` frames stand on the side
behind the first `b`. -/
structure Frames.Aside (b k : Nat) (s₁ s₂ : Frames) : Prop where
  base : b ≤ s₁.size
  size : s₂.size = s₁.size + k
  bindings : ∀ id, s₂.bindings (past b k id) = s₁.bindings id

namespace Frames.Aside

variable {b k : Nat} {s₁ s₂ : Frames} (h : s₁.Aside b k s₂)

include h

/-- A name is found alike in moved frames, from the inside outwards. -/
theorem find?_eq (name : String) (ids : List FrameId) :
    s₂.find? name (ids.map (past b k)) = s₁.find? name ids := by
  induction ids with
  | nil => rfl
  | cons id rest ih => rw [List.map_cons, find?_cons, find?_cons, h.bindings, ih]

/-- A frame is there on both sides or on none. -/
theorem past_lt_size_iff {id : Nat} : past b k id < s₂.size ↔ id < s₁.size := by
  have hbase := h.base
  have hsize := h.size
  unfold past
  split <;> omega

/-- A frame that is opened in both stores is the same frame. -/
theorem fresh : s₁.fresh.2.Aside b k s₂.fresh.2 where
  base := by
    rw [size_fresh]
    exact Nat.le_succ_of_le h.base
  size := by
    rw [size_fresh, size_fresh, h.size]
    omega
  bindings id := by rw [bindings_fresh, bindings_fresh, h.bindings]

/-- A new frame is put at the moved place. -/
theorem child_eq (env : Environment) :
    ((env.moved (past b k)).child s₂).1 = (env.child s₁).1.moved (past b k) := by
  have hsize : s₂.frames.size = past b k s₁.frames.size := by
    exact h.size.trans (past_of_le k h.base).symm
  simp only [Environment.child, Environment.moved, Frames.fresh, hsize, List.map_cons]

theorem bind (id : FrameId) (name : String) (v : Value) :
    (s₁.bind id name v).Aside b k (s₂.bind (past b k id) name v) where
  base := by
    rw [size_bind]
    exact h.base
  size := by rw [size_bind, size_bind, h.size]
  bindings other := by
    rw [bindings_bind, bindings_bind, h.bindings, h.bindings]
    simp only [past_inj, h.past_lt_size_iff]

end Frames.Aside

/-- Where the same is provided to both runs, no halt has to be excused. -/
theorem Provision.akin_unexcused (p : Provision) : p.Akin p fun _ => False :=
  p.akin_self _

/-- A run, and the same run with `k` frames on the side that were opened behind those of `s`. -/
def Mirror.aside (p : Provision) (s : Frames) (k : Nat) : Mirror where
  left := p
  right := p
  base := s
  frames := Frames.Aside s.size k
  envs env₁ env₂ := env₂ = env₁.moved (Frames.past s.size k)
  fresh env₁ env₂ := env₂ = env₁.moved (Frames.past s.size k)
  good _ := True
  excused _ := False
  akin := p.akin_unexcused
  good_of_grows _ _ := trivial
  envs_of_fresh := id
  globalScope h := by
    subst h
    rfl
  child _ _ := ⟨_, rfl⟩
  opened {s₁ s₂ env₁ env₂} hs h := by
    subst h
    exact ⟨hs.fresh, hs.child_eq env₁⟩
  declare {s₁ s₂ env₁ env₂} name v hs h := by
    subst h
    rw [Environment.declare, Environment.declare, Environment.innermost_moved]
    exact hs.bind _ name v
  inward {s₁ s₂ env₁ env₂} name hs _ h := by
    subst h
    rw [Environment.findInward?, Environment.findInward?, Environment.inward_moved, hs.find?_eq]
  outward {s₁ s₂ env₁ env₂} name hs _ h := by
    subst h
    rw [Environment.findOutward?, Environment.findOutward?, Environment.outward_moved, hs.find?_eq]
  declared {s₁ s₂ env₁ env₂} hs h := by
    subst h
    rw [Environment.declared, Environment.declared, Environment.innermost_moved, hs.bindings]

/-! ## Machines with frames on the side -/

namespace Machine.Extends

variable {m m' m'' : Machine}

/-- Extensions follow each other. -/
theorem trans (h : m.Extends m') (h' : m'.Extends m'') : m.Extends m'' where
  host := h'.host.trans h.host
  report := h'.report.trans h.report
  functions := h'.functions.trans h.functions
  mixins := h'.mixins.trans h.mixins
  callDepth := h'.callDepth.trans h.callDepth
  size := Nat.le_trans h.size h'.size
  bindings id hid := (h'.bindings id (Nat.lt_of_lt_of_le hid h.size)).trans (h.bindings id hid)

/-- An extension knows the same functions. -/
theorem functionsOnly (h : m.Extends m') (hm : m.FunctionsOnly) : m'.FunctionsOnly := by
  unfold FunctionsOnly
  rw [h.functions]
  exact hm

/-- The frames that a machine has beyond another one are frames on the side. -/
theorem aside (h : m.Extends m') :
    m.frames.Aside m.frames.size (m'.frames.size - m.frames.size) m'.frames where
  base := Nat.le_refl _
  size := (Nat.add_sub_cancel' h.size).symm
  bindings id := by
    by_cases hid : id < m.frames.size
    · rw [Frames.past_of_lt _ hid, h.bindings id hid]
    · -- Behind its own frames, neither has any bindings.
      have hle : m.frames.size ≤ id := Nat.not_lt.mp hid
      have hbehind : m'.frames.size ≤ id + (m'.frames.size - m.frames.size) :=
        Nat.le_trans (Nat.le_of_eq (Nat.add_sub_cancel' h.size).symm) (Nat.add_le_add_right hle _)
      rw [Frames.past_of_le _ hle, Frames.bindings_of_le hle, Frames.bindings_of_le hbehind]

/-- A machine mirrors its extension: the frames that have been added are moved past. -/
theorem machines (h : m.Extends m') (p : Provision) :
    (Mirror.aside p m.frames (m'.frames.size - m.frames.size)).Machines m.callDepth m.callDepth
      m m' where
  left := ⟨rfl, .refl _⟩
  right := h.callDepth
  host := h.host.symm
  report := h.report.symm
  functions := h.functions.symm
  mixins := h.mixins.symm
  frames := h.aside

end Machine.Extends

namespace Run

/-- How a computation ends: with an answer or in a halt. -/
def outcome {α : Type} (x : Run α) (m : Machine) : Except Halt α :=
  match x m with
  | .ok a _ => .ok a
  | .error e _ => .error e

/-- Where the same is provided to both runs, routines are entered alike with the same levels left
and at the same depth, whether the levels are enough or not. -/
theorem enterWithin_mirrors_self (M : Mirror) (hsame : M.left = M.right) :
    ∀ levels d : Nat, Enter.Mirrors M d d (enterWithin M.left levels) (enterWithin M.right levels)
  | 0, _ => fun _ _ _ _ _ _ _ _ _ _ _ => .throw .exhausted
  | levels + 1, d => by
    intro callee routine args₁ args₂ frame₁ frame₂ ctx loc _ hargs hframe
    have hroom : d + M.left.settings.limits.maxCallDepth ≤
        d + M.right.settings.limits.maxCallDepth := Nat.le_of_eq (by rw [hsame])
    refine Mirrors.withCall hroom (.inl rfl) fun _ => ?_
    have he := enterWithin_mirrors_self M hsame levels (d + 1)
    have hparams := Param.everyIn_of (fun _ => trivial) routine.params
    exact Comparison.bindSame
      (Comparison.bindArguments he hframe ctx callee hparams (hargs.fillAll_eq callee) loc)
      fun _ => Mirrors.runBlock he routine.body hframe ctx

section

variable {p : Provision} {m m' : Machine}

/-- A closure ends in the same way on a machine that has further frames, if its scopes were there
before. -/
theorem outcome_callClosure_eq (h : m.Extends m') (levels : Nat) (ctx : Context) (loc : Coordinate)
    {c : Closure} (henv : c.env.Within m.frames) (values : List Value) :
    (callClosure (enterWithin p levels) ctx loc c values).outcome m' =
      (callClosure (enterWithin p levels) ctx loc c values).outcome m := by
  let M : Mirror := .aside p m.frames (m'.frames.size - m.frames.size)
  have hscopes : M.envs c.env c.env :=
    (Environment.moved_eq_self fun id hid => Frames.past_of_lt _ (henv.bound id hid)).symm
  have hclosures : (M.comparison m.callDepth m.callDepth).Closures c c :=
    { params := rfl
      body := rfl
      env := hscopes
      functional := Routine.every_of (fun _ => trivial) _ }
  have hends := (Comparison.callClosure (enterWithin_mirrors_self M rfl levels m.callDepth) ctx loc
    hclosures values).ends (h.machines p) trivial
  change M.Ends m.callDepth m.callDepth (· = ·)
    (callClosure (enterWithin p levels) ctx loc c values m)
    (callClosure (enterWithin p levels) ctx loc c values m') at hends
  rw [outcome, outcome]
  -- Both runs have the same answer, or the same halt.
  generalize callClosure (enterWithin p levels) ctx loc c values m = r at hends ⊢
  generalize callClosure (enterWithin p levels) ctx loc c values m' = r' at hends ⊢
  cases hends with
  | excused hexcused => exact hexcused.elim
  | ok hv _ => rw [hv]
  | error _ _ => rfl

/-- A closure whose statements are those of functions opens frames and does nothing else, where
all functions are such. -/
theorem extends_callClosure (hp : p.registry.FromDrafts) (hm : m.FunctionsOnly) (levels : Nat)
    (ctx : Context) (loc : Coordinate) {c : Closure}
    (hc : c.Every fun s => s.isFunctionLevel = true) (values : List Value) :
    m.Extends ((callClosure (enterWithin p levels) ctx loc c values).after m) := by
  have hmakes := Makes.callClosure (enterWithin_keeps (.evaluation p hp m.frames.size) levels)
    ctx.admitted_evaluation loc hc values
  exact (hmakes m hm.sound).1.extends rfl

end

end Run

end Graft
