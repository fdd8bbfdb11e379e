import Graft.Proofs.Run.Ending
import Graft.Proofs.Run.Mirroring

/-!
Patches do not see each other.

An interpreter that comes to its next patch may have anything behind it. The frames of earlier
runs are still in the store, and after a failure so are half-finished tables, a depth of calls and
a report. A run looks at none of that: it begins with a global frame of its own, and every
environment that it makes is a chain of frames from there on.

So the run is compared with the run of a new interpreter. The two open the same frames in the same
order, the one behind those that were there before, the other from the first place on. That is a
mirror, and the limits are the same on both sides, so nothing has to be excused.

The outcomes of several patches follow one by one. Only a patch that takes the whole program down
keeps the others from having one.
-/

set_option autoImplicit false

namespace Graft

/-! ## Frames behind other frames -/

/-- The environment with all its frames so many places further on. -/
def Environment.shift (k : Nat) (env : Environment) : Environment :=
  ⟨env.global + k, env.inner.map (· + k)⟩

namespace Environment

theorem innermost_shift (k : Nat) (env : Environment) :
    (env.shift k).innermost = env.innermost + k := by
  obtain ⟨global, inner⟩ := env
  cases inner with
  | nil => rfl
  | cons id rest => rfl

theorem outward_shift (k : Nat) (env : Environment) :
    (env.shift k).outward = env.outward.map (· + k) := by
  rw [outward, outward, List.map_append]
  rfl

theorem inward_shift (k : Nat) (env : Environment) :
    (env.shift k).inward = env.inward.map (· + k) := by
  rw [inward, inward, List.map_cons, List.map_reverse]
  rfl

theorem globalScope_shift (k : Nat) (env : Environment) :
    (env.shift k).globalScope = env.globalScope.shift k :=
  rfl

end Environment

/-- The frames of the first store stand in the second one behind so many others. -/
structure Frames.Behind (k : Nat) (s₁ s₂ : Frames) : Prop where
  size : s₂.size = s₁.size + k
  bindings : ∀ id, s₂.bindings (id + k) = s₁.bindings id

namespace Frames.Behind

variable {k : Nat} {s₁ s₂ : Frames} (h : s₁.Behind k s₂)

include h

theorem find?_eq (name : String) (ids : List FrameId) :
    s₂.find? name (ids.map (· + k)) = s₁.find? name ids := by
  induction ids with
  | nil => rfl
  | cons id rest ih => rw [List.map_cons, find?_cons, find?_cons, h.bindings, ih]

/-- A frame that is opened in both stores is the same frame. -/
theorem fresh : s₁.fresh.2.Behind k s₂.fresh.2 where
  size := by
    rw [size_fresh, size_fresh, h.size]
    omega
  bindings id := by rw [bindings_fresh, bindings_fresh, h.bindings]

theorem child_eq (env : Environment) :
    ((env.shift k).child s₂).1 = (env.child s₁).1.shift k := by
  have hsize : s₂.frames.size = s₁.frames.size + k := h.size
  simp only [Environment.child, Environment.shift, Frames.fresh, hsize, List.map_cons]

theorem bind (id : FrameId) (name : String) (v : Value) :
    (s₁.bind id name v).Behind k (s₂.bind (id + k) name v) where
  size := by rw [size_bind, size_bind, h.size]
  bindings other := by
    rw [bindings_bind, bindings_bind, h.bindings, h.bindings, h.size]
    -- The two ask for the same frame, and whether it is there.
    by_cases hid : id = other ∧ id < s₁.size
    · rw [if_pos hid, if_pos ⟨congrArg (· + k) hid.1, Nat.add_lt_add_right hid.2 k⟩]
    · have hid' : ¬ (id + k = other + k ∧ id + k < s₁.size + k) := by
        intro hc
        exact hid ⟨Nat.add_right_cancel hc.1, Nat.lt_of_add_lt_add_right hc.2⟩
      rw [if_neg hid, if_neg hid']

end Frames.Behind

/-- A run from the first frame on, and the same run behind so many other frames. -/
def Mirror.behind (p : Provision) (k : Nat) : Mirror where
  left := p
  right := p
  base := .empty
  frames := Frames.Behind k
  envs env₁ env₂ := env₂ = env₁.shift k
  fresh env₁ env₂ := env₂ = env₁.shift k
  good _ := True
  excused _ := False
  akin := p.akin_self fun _ => False
  good_of_grows _ _ := trivial
  envs_of_fresh := id
  globalScope h := by
    subst h
    exact Environment.globalScope_shift k _
  child _ _ := ⟨_, rfl⟩
  opened {s₁ s₂ env₁ env₂} hs h := by
    subst h
    exact ⟨hs.fresh, hs.child_eq env₁⟩
  declare {s₁ s₂ env₁ env₂} name v hs h := by
    subst h
    rw [Environment.declare, Environment.declare, Environment.innermost_shift]
    exact hs.bind _ name v
  inward {s₁ s₂ env₁ env₂} name hs _ h := by
    subst h
    rw [Environment.findInward?, Environment.findInward?, Environment.inward_shift, hs.find?_eq]
  outward {s₁ s₂ env₁ env₂} name hs _ h := by
    subst h
    rw [Environment.findOutward?, Environment.findOutward?, Environment.outward_shift, hs.find?_eq]
  declared {s₁ s₂ env₁ env₂} hs h := by
    subst h
    rw [Environment.declared, Environment.declared, Environment.innermost_shift, hs.bindings]

/-! ## Single patches -/

/-- How a run ends is how the statements of its patch end. -/
theorem Interpreter.execute_eq_outcome (p : Provision) (i : Interpreter) (patch : Patch)
    (h : Host) :
    ((i.execute p patch h).1, (i.execute p patch h).2.1) = Patch.outcome (Run.runBlock p
      (Run.enterWithin p (p.settings.limits.maxCallDepth + 1)) (i.start h).1
      ⟨Host.root, false, [Host.root]⟩ patch.statements (i.start h).2) := by
  rw [execute]
  rcases i.start h with ⟨globals, m⟩
  dsimp only
  generalize Run.runBlock p _ globals _ patch.statements m = r
  cases r with
  | ok flow m' => rfl
  | error e m' => rfl

/-- **Runs do not depend on what came before.** Whatever an interpreter has behind it, it executes
a patch with the same result and leaves the same tree as if nothing had been run before. -/
theorem Interpreter.execute_eq (p : Provision) (i : Interpreter) (patch : Patch) (h : Host) :
    ((i.execute p patch h).1, (i.execute p patch h).2.1) = patch.execute p h := by
  let M : Mirror := .behind p i.frames.size
  have henter : Enter.Mirrors M 0 0 (Run.enterWithin p (p.settings.limits.maxCallDepth + 1))
      (Run.enterWithin p (p.settings.limits.maxCallDepth + 1)) :=
    Run.enterWithin_mirrors M _ _ (Nat.zero_le _)
      (show p.settings.limits.maxCallDepth < 0 + (p.settings.limits.maxCallDepth + 1) by omega)
      (show p.settings.limits.maxCallDepth < 0 + (p.settings.limits.maxCallDepth + 1) by omega)
      (Nat.le_refl _) (.inl rfl)
  have hframes : (Machine.start h).2.frames.Behind i.frames.size (i.start h).2.frames := by
    constructor
    · show i.frames.fresh.2.size = 1 + i.frames.size
      rw [Frames.size_fresh, Nat.add_comm]
    · intro id
      show i.frames.fresh.2.bindings (id + i.frames.size) = Frames.empty.fresh.2.bindings id
      rw [Frames.bindings_fresh, Frames.bindings_fresh,
        Frames.bindings_of_le (Nat.le_add_left _ _), Frames.bindings_of_le (Nat.zero_le _)]
  have hglobals : (i.start h).1 = (Machine.start h).1.shift i.frames.size := by
    show (⟨i.frames.size, []⟩ : Environment) = ⟨0 + i.frames.size, []⟩
    rw [Nat.zero_add]
  have hstart : M.Machines 0 0 (Machine.start h).2 (i.start h).2 :=
    { left := ⟨rfl, ⟨Nat.zero_le _, fun hname => by cases hname⟩⟩
      right := rfl
      host := rfl
      report := rfl
      functions := rfl
      mixins := rfl
      frames := hframes }
  have hends := ((Mirrors.runBlock henter patch.statements hglobals
    ⟨Host.root, false, [Host.root]⟩).ends hstart trivial).outcome
  rw [execute_eq_outcome, Patch.execute_eq_outcome]
  -- No halt is excused.
  rcases hends with ⟨e, _, hexcused⟩ | hsame
  · exact hexcused.elim
  · exact hsame

/-- A patch that is applied ends as a patch that was executed on its own, unless it is faulty. -/
theorem Interpreter.apply_eq (p : Provision) (i : Interpreter) (patch : Patch) (h : Host) :
    (i.apply p patch h).map (fun r => (r.1, r.2.1)) =
      if patch.faulty then some (.skipped, h)
      else (Outcome.ofResult? (patch.execute p h).1).map fun outcome =>
        (outcome, (patch.execute p h).2) := by
  rw [apply]
  by_cases hfaulty : patch.faulty = true
  · rw [if_pos hfaulty, if_pos hfaulty]
    rfl
  · rw [if_neg hfaulty, if_neg hfaulty, ← i.execute_eq p patch h, Option.map_map]
    rfl

/-- A patch has an outcome unless it is run and traps. -/
theorem Interpreter.apply_eq_none_iff (p : Provision) (i : Interpreter) (patch : Patch)
    (h : Host) :
    i.apply p patch h = none ↔
      patch.faulty = false ∧ (patch.execute p h).1 = .error .trapped := by
  rw [← Option.map_eq_none_iff, apply_eq]
  by_cases hfaulty : patch.faulty = true
  · rw [if_pos hfaulty, hfaulty]
    constructor
    · intro hnone
      cases hnone
    · rintro ⟨hclean, _⟩
      cases hclean
  · rw [if_neg hfaulty, Option.map_eq_none_iff]
    rw [Bool.not_eq_true] at hfaulty
    cases hresult : (patch.execute p h).1 with
    | ok report =>
      constructor
      · intro hnone
        cases hnone
      · rintro ⟨_, htrapped⟩
        cases htrapped
    | error e =>
      cases e with
      | failed failure =>
        constructor
        · intro hnone
          cases hnone
        · rintro ⟨_, htrapped⟩
          cases htrapped
      | trapped => exact ⟨fun _ => ⟨hfaulty, rfl⟩, fun _ => rfl⟩
      | exhausted =>
        exact absurd (Moment.execute_eq_error_iff.mp hresult) (Moment.not_halts_exhausted patch h)

/-! ## Several patches -/

/-- Applies patches in turn, each with an interpreter that has run nothing before. -/
def Patch.applyEach (p : Provision) : List Patch → Host → Option (List Outcome × Host)
  | [], h => some ([], h)
  | patch :: rest, h => do
    let (outcome, h, _) ← Interpreter.fresh.apply p patch h
    let (outcomes, h) ← applyEach p rest h
    return (outcome :: outcomes, h)

/-- The first patch is applied, and then the others to the tree that it has left. -/
theorem Patch.applyEach_cons (p : Provision) (patch : Patch) (rest : List Patch) (h : Host) :
    applyEach p (patch :: rest) h =
      ((Interpreter.fresh.apply p patch h).map fun r => (r.1, r.2.1)).bind fun r =>
        (applyEach p rest r.2).map fun r' => (r.1 :: r'.1, r'.2) := by
  rw [applyEach]
  cases Interpreter.fresh.apply p patch h with
  | none => rfl
  | some r =>
    show (applyEach p rest r.2.1).bind _ = (applyEach p rest r.2.1).map _
    cases applyEach p rest r.2.1 <;> rfl

namespace Interpreter

variable {p : Provision}

theorem applyAll_cons (i : Interpreter) (patch : Patch) (rest : List Patch) (h : Host) :
    i.applyAll p (patch :: rest) h =
      (i.apply p patch h).bind fun r =>
        (r.2.2.applyAll p rest r.2.1).map fun r' => (r.1 :: r'.1, r'.2) := by
  rw [applyAll]
  cases i.apply p patch h with
  | none => rfl
  | some r =>
    show (r.2.2.applyAll p rest r.2.1).bind _ = (r.2.2.applyAll p rest r.2.1).map _
    cases r.2.2.applyAll p rest r.2.1 <;> rfl

/-- Patch by patch, what an interpreter has behind it does not matter. -/
theorem applyAll_eq_applyEach : ∀ (i : Interpreter) (patches : List Patch) (h : Host),
    (i.applyAll p patches h).map (fun r => (r.1, r.2.1)) = Patch.applyEach p patches h
  | _, [], _ => rfl
  | i, patch :: rest, h => by
    rw [applyAll_cons, Patch.applyEach_cons, apply_eq p fresh, ← apply_eq p i]
    cases i.apply p patch h with
    | none => rfl
    | some r =>
      obtain ⟨outcome, h', i'⟩ := r
      have hrest := applyAll_eq_applyEach i' rest h'
      simp only [Option.bind_some, Option.map_some, ← hrest, Option.map_map]
      rfl

theorem length_applyAll : ∀ {i i' : Interpreter} {patches : List Patch} {h h' : Host}
    {outcomes : List Outcome}, i.applyAll p patches h = some (outcomes, h', i') →
    outcomes.length = patches.length
  | _, _, [], _, _, _, happly => by
    cases happly
    rfl
  | i, _, patch :: rest, h, _, _, happly => by
    rw [applyAll_cons] at happly
    obtain ⟨r, _, hmap⟩ := Option.bind_eq_some_iff.mp happly
    obtain ⟨⟨others, h₂, i₂⟩, hrest, heq⟩ := Option.map_eq_some_iff.mp hmap
    cases heq
    rw [List.length_cons, List.length_cons, length_applyAll hrest]

/-- Nothing comes of any patch exactly if one of them traps that is come to. -/
theorem applyAll_eq_none_iff : ∀ {i : Interpreter} {patches : List Patch} {h : Host},
    i.applyAll p patches h = none ↔
      ∃ before patch after outcomes h', patches = before ++ patch :: after ∧
        Patch.applyEach p before h = some (outcomes, h') ∧ patch.faulty = false ∧
        (patch.execute p h').1 = .error .trapped
  | i, [], h => by
    constructor
    · intro hnone
      cases hnone
    · rintro ⟨before, patch, after, _, _, hsplit, _⟩
      exact absurd hsplit (by simp)
  | i, first :: rest, h => by
    rw [applyAll_cons]
    have hfirst := apply_eq p i first h
    rw [← apply_eq p fresh] at hfirst
    cases happly : i.apply p first h with
    | none =>
      -- The first patch traps.
      obtain ⟨hclean, htrapped⟩ := (apply_eq_none_iff p i first h).mp happly
      exact ⟨fun _ => ⟨[], first, rest, [], h, rfl, rfl, hclean, htrapped⟩, fun _ => rfl⟩
    | some r =>
      obtain ⟨outcome, h₁, i₁⟩ := r
      rw [happly] at hfirst
      simp only [Option.bind_some, Option.map_eq_none_iff]
      rw [applyAll_eq_none_iff]
      constructor
      · rintro ⟨before, patch, after, outcomes, h', rfl, hbefore, hpatch⟩
        refine ⟨first :: before, patch, after, outcome :: outcomes, h', rfl, ?_, hpatch⟩
        rw [Patch.applyEach_cons, ← hfirst, Option.map_some, Option.bind_some, hbefore]
        rfl
      · rintro ⟨before, patch, after, outcomes, h', hsplit, hbefore, hclean, htrapped⟩
        cases before with
        | nil =>
          -- The first patch would trap, but it has an outcome.
          obtain ⟨rfl, rfl⟩ := List.cons.inj hsplit
          cases hbefore
          rw [(apply_eq_none_iff p i first h).mpr ⟨hclean, htrapped⟩] at happly
          cases happly
        | cons first' before =>
          obtain ⟨rfl, rfl⟩ := List.cons.inj hsplit
          rw [Patch.applyEach_cons, ← hfirst, Option.map_some, Option.bind_some] at hbefore
          obtain ⟨r, hrest, heq⟩ := Option.map_eq_some_iff.mp hbefore
          cases heq
          exact ⟨before, patch, after, r.1, r.2, rfl, hrest, hclean, htrapped⟩

/-- A faulty patch is skipped, and leaves the tree alone. -/
theorem apply_of_faulty (i : Interpreter) {patch : Patch} (hfaulty : patch.faulty = true)
    (h : Host) : (i.apply p patch h).map (fun r => (r.1, r.2.1)) = some (.skipped, h) := by
  rw [apply_eq, if_pos hfaulty]

/-- **Patches are isolated from each other.** Whatever an interpreter has behind it, it gives
patches the same outcomes and leaves the same tree as interpreters that have run nothing before,
one for each patch and one after the other on the same tree. A faulty patch is skipped, and leaves
the tree alone. There is one outcome for each patch, unless one that is come to traps, and then
there is none. -/
theorem applyAll_isolated (i : Interpreter) (patches : List Patch) (h : Host) :
    (i.applyAll p patches h).map (fun r => (r.1, r.2.1)) = Patch.applyEach p patches h ∧
    (∀ (i : Interpreter) (patch : Patch) (h : Host), patch.faulty = true →
      (i.apply p patch h).map (fun r => (r.1, r.2.1)) = some (.skipped, h)) ∧
    (∀ outcomes h' i', i.applyAll p patches h = some (outcomes, h', i') →
      outcomes.length = patches.length) ∧
    (i.applyAll p patches h = none ↔
      ∃ before patch after outcomes h', patches = before ++ patch :: after ∧
        Patch.applyEach p before h = some (outcomes, h') ∧ patch.faulty = false ∧
        (patch.execute p h').1 = .error .trapped) := by
  refine ⟨applyAll_eq_applyEach i patches h, ?_, fun _ _ _ => length_applyAll,
    applyAll_eq_none_iff⟩
  exact fun i _ h hfaulty => i.apply_of_faulty hfaulty h

/-- A patch that computes the quotient of the least whole number by -1 takes down the patches
behind it as well. -/
theorem applyAll_leastQuotient :
    ¬ ∀ (p : Provision) (i : Interpreter) (patches : List Patch) (h : Host),
      ∃ outcomes h' i', i.applyAll p patches h = some (outcomes, h', i') ∧
        outcomes.length = patches.length := by
  intro hall
  obtain ⟨outcomes, h', i', hsome, -⟩ := hall ⟨.withActiveMods [], .standard⟩ .fresh
    [Patch.ofDraft .leastQuotient, Patch.ofDraft ⟨.origin, []⟩]
    (.ofDescription [] (.mk "doc" none [] .null [] false))
  have hnone : (applyAll ⟨.withActiveMods [], .standard⟩ .fresh
      [Patch.ofDraft .leastQuotient, Patch.ofDraft ⟨.origin, []⟩]
      (.ofDescription [] (.mk "doc" none [] .null [] false))).isNone = true := by
    decide +kernel
  rw [hsome] at hnone
  cases hnone

end Interpreter

end Graft
