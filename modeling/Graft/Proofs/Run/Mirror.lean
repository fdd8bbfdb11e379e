import Graft.Proofs.Run.Evolution

/-!
Two runs side by side.

A patch can be written in two ways, or run with two settings, and it is to be shown that
nothing depends on the difference. The two runs open different frames and nest their calls
differently deep, but otherwise do the same things in the same order. A `Mirror` says how
the frames and the environments of the two runs correspond and what is asked of them for a
lookup to find the same; `Mirrors` says of two computations that they end alike from
machines that correspond.

Two reservations are made. The left run may end in a halt that is excused, and then nothing
is said of the right one; where the limits of the two runs differ, halts at them have to be
excused. And lookups are only bound to agree as long as the frames of the
left run are good, which may be lost when more names are bound. So computations are compared
where the frames are good in the end; since frames only grow, they have then been good all
along.
-/

set_option autoImplicit false

namespace Graft

variable {α β γ δ : Type}

/-! ## Mirrors -/

/-- All halts at limits are excused. -/
def Halt.ExcusesLimits (excused : Halt → Prop) : Prop :=
  ∀ f : Failure, f.cause.trouble = .limit → excused (.failed f)

/-- What is provided to two runs differs in limits at most, and where limits matter, the left run
halts with an excuse. -/
structure Provision.Akin (left right : Provision) (excused : Halt → Prop) : Prop where
  registry : left.registry = right.registry
  stage : left.settings.stage = right.settings.stage
  fields : left.settings.fields = right.settings.fields
  loops : left.settings.limits.maxLoopIterations ≤ right.settings.limits.maxLoopIterations
  /-- The limits are the same, or they do not matter. -/
  limits : left.settings.limits = right.settings.limits ∨ Halt.ExcusesLimits excused
  /-- Selectors yield the same, or the left run halts in an excused way. -/
  resolve : ∀ (selector : Selector) (scope : ElementId) (h : Host),
    selector.resolve left scope h = selector.resolve right scope h ∨
      ∃ e host, selector.resolve left scope h = (.error e, host) ∧
        excused (.failed ⟨selector.loc, .selector e⟩)

/-- The same is provided to both runs. -/
theorem Provision.akin_self (p : Provision) (excused : Halt → Prop) : p.Akin p excused where
  registry := rfl
  stage := rfl
  fields := rfl
  loops := Nat.le_refl _
  limits := .inl rfl
  resolve _ _ _ := .inl rfl

/-- How the frames, the environments and the halts of two runs correspond. -/
structure Mirror where
  /-- What the left run is provided with. -/
  left : Provision
  /-- What the right run is provided with. -/
  right : Provision
  /-- The frames from which on the left run is looked at. -/
  base : Frames
  /-- Frames of the left and of the right run. -/
  frames : Frames → Frames → Prop
  /-- Environments of the left and of the right run. -/
  envs : Environment → Environment → Prop
  /-- Environments whose innermost frames were opened on the way. -/
  fresh : Environment → Environment → Prop
  /-- The frames of the left run give the same answers as those of the right one. -/
  good : Frames → Prop
  /-- The halts of the left run behind which nothing is compared. -/
  excused : Halt → Prop
  akin : left.Akin right excused
  /-- What is good in the end has been good before. -/
  good_of_grows : ∀ {s s' : Frames}, s.Grows s' → good s' → good s
  envs_of_fresh : ∀ {env₁ env₂ : Environment}, fresh env₁ env₂ → envs env₁ env₂
  globalScope : ∀ {env₁ env₂ : Environment}, envs env₁ env₂ →
    envs env₁.globalScope env₂.globalScope
  /-- Wherever the left run opens a frame, some frame of the right run corresponds. -/
  child : ∀ {s : Frames} {env₁ env₂ : Environment}, base.Grows s → envs env₁ env₂ →
    ∃ env, fresh (env₁.child s).1 env
  opened : ∀ {s₁ s₂ : Frames} {env₁ env₂ : Environment}, frames s₁ s₂ → envs env₁ env₂ →
    frames (env₁.child s₁).2 (env₂.child s₂).2 ∧ fresh (env₁.child s₁).1 (env₂.child s₂).1
  declare : ∀ {s₁ s₂ : Frames} {env₁ env₂ : Environment} (name : String) (v : Value),
    frames s₁ s₂ → envs env₁ env₂ → frames (env₁.declare s₁ name v) (env₂.declare s₂ name v)
  inward : ∀ {s₁ s₂ : Frames} {env₁ env₂ : Environment} (name : String),
    frames s₁ s₂ → good s₁ → envs env₁ env₂ →
    env₁.findInward? s₁ name = env₂.findInward? s₂ name
  outward : ∀ {s₁ s₂ : Frames} {env₁ env₂ : Environment} (name : String),
    frames s₁ s₂ → good s₁ → envs env₁ env₂ →
    env₁.findOutward? s₁ name = env₂.findOutward? s₂ name
  declared : ∀ {s₁ s₂ : Frames} {env₁ env₂ : Environment},
    frames s₁ s₂ → fresh env₁ env₂ → env₁.declared s₁ = env₂.declared s₂

namespace Mirror

/-- A machine of the left run at a depth of calls. -/
structure Left (M : Mirror) (d : Nat) (m : Machine) : Prop where
  depth : m.callDepth = d
  grown : M.base.Grows m.frames

/-- Machines of the two runs that correspond, at these depths of calls. -/
structure Machines (M : Mirror) (d₁ d₂ : Nat) (m₁ m₂ : Machine) : Prop where
  left : M.Left d₁ m₁
  right : m₂.callDepth = d₂
  host : m₁.host = m₂.host
  report : m₁.report = m₂.report
  functions : m₁.functions = m₂.functions
  mixins : m₁.mixins = m₂.mixins
  frames : M.frames m₁.frames m₂.frames

/-- Computations that end alike: the left one in an excused halt, both with answers that are
related by `Q`, or both in the same halt, with the same host and the same report. -/
inductive Ends (M : Mirror) (d₁ d₂ : Nat) (Q : α → β → Prop) :
    EStateM.Result Halt Machine α → EStateM.Result Halt Machine β → Prop
  | excused {e : Halt} {m₁ : Machine} {r₂ : EStateM.Result Halt Machine β} :
    M.excused e → Ends M d₁ d₂ Q (.error e m₁) r₂
  | ok {a : α} {b : β} {m₁ m₂ : Machine} :
    Q a b → M.Machines d₁ d₂ m₁ m₂ → Ends M d₁ d₂ Q (.ok a m₁) (.ok b m₂)
  | error {e : Halt} {m₁ m₂ : Machine} :
    m₁.host = m₂.host → m₁.report = m₂.report → Ends M d₁ d₂ Q (.error e m₁) (.error e m₂)

end Mirror

/-- Two computations mirror each other: the left one takes back the depth of calls, only
makes frames grow and answers what some answer of the right one may be related to; and from
machines that correspond the two end alike, if the frames are good in the end. -/
structure Mirrors (M : Mirror) (d₁ d₂ : Nat) (x₁ : Run α) (x₂ : Run β) (Q : α → β → Prop) :
    Prop where
  grows : ∀ {m : Machine}, M.Left d₁ m →
    (x₁.after m).callDepth = d₁ ∧ m.frames.Grows (x₁.after m).frames
  answers : ∀ {m m' : Machine} {a : α}, M.Left d₁ m → x₁ m = .ok a m' → ∃ b, Q a b
  ends : ∀ {m₁ m₂ : Machine}, M.Machines d₁ d₂ m₁ m₂ → M.good (x₁.after m₁).frames →
    M.Ends d₁ d₂ Q (x₁ m₁) (x₂ m₂)

/-- Two computations mirror each other and have the same answers. -/
abbrev Agree (M : Mirror) (d₁ d₂ : Nat) (x₁ x₂ : Run α) : Prop :=
  Mirrors M d₁ d₂ x₁ x₂ (· = ·)

namespace Mirrors

variable {M : Mirror} {d₁ d₂ : Nat} {Q : α → β → Prop} {R : γ → δ → Prop} {x₁ : Run α}
  {x₂ : Run β}

theorem left (h : Mirrors M d₁ d₂ x₁ x₂ Q) {m : Machine} (hm : M.Left d₁ m) :
    M.Left d₁ (x₁.after m) :=
  ⟨(h.grows hm).1, hm.grown.trans (h.grows hm).2⟩

/-! ## Putting computations together -/

theorem pure {a : α} {b : β} (h : Q a b) : Mirrors M d₁ d₂ (pure a) (pure b) Q where
  grows hm := ⟨hm.depth, .refl _⟩
  answers _ hx := by
    cases hx
    exact ⟨b, h⟩
  ends hm _ := .ok h hm

theorem throw (e : Halt) : Mirrors M d₁ d₂ (throw e : Run α) (throw e : Run β) Q where
  grows hm := ⟨hm.depth, .refl _⟩
  answers _ hx := by cases hx
  ends hm _ := .error hm.host hm.report

theorem fail (loc : Coordinate) (cause : Cause) :
    Mirrors M d₁ d₂ (Run.fail loc cause : Run α) (Run.fail loc cause : Run β) Q :=
  throw _

/-- What fails at a limit need not be mirrored if that is excused. -/
theorem limited (hexcuses : Halt.ExcusesLimits M.excused) {loc : Coordinate} {cause : Cause}
    (h : cause.trouble = .limit) :
    Mirrors M d₁ d₂ (Run.fail loc cause : Run α) x₂ Q := by
  have hfail : ∀ m : Machine, (Run.fail loc cause : Run α) m = .error (.failed ⟨loc, cause⟩) m := by
    intro m
    -- A trap is no failure, but no trap is a limit either.
    have hne : cause ≠ .operator .trap := fun hc => by
      rw [hc] at h
      cases h
    rw [Run.fail, if_neg hne]
    rfl
  refine ⟨fun {m} hm => ?_, fun {m m' a} hm ha => ?_, fun {m₁ m₂} hm _ => ?_⟩
  · rw [Run.after_error (hfail m)]
    exact ⟨hm.depth, .refl _⟩
  · rw [hfail] at ha
    cases ha
  · rw [hfail]
    exact .excused (hexcuses _ h)

/-- Where the left computation has an answer, the run goes on from a machine of the left run
with more frames. -/
theorem behind (hx : Mirrors M d₁ d₂ x₁ x₂ Q) {m m' : Machine} {a : α} (hm : M.Left d₁ m)
    (hr : x₁ m = .ok a m') : M.Left d₁ m' ∧ m.frames.Grows m'.frames := by
  have hleft := hx.left hm
  have hgrows := (hx.grows hm).2
  rw [Run.after_ok hr] at hleft hgrows
  exact ⟨hleft, hgrows⟩

theorem bind {f₁ : α → Run γ} {f₂ : β → Run δ} (hx : Mirrors M d₁ d₂ x₁ x₂ Q)
    (hf : ∀ a b, Q a b → Mirrors M d₁ d₂ (f₁ a) (f₂ b) R) :
    Mirrors M d₁ d₂ (x₁ >>= f₁) (x₂ >>= f₂) R := by
  refine ⟨fun {m} hm => ?_, fun {m m'' c} hm hc => ?_, fun {m₁ m₂} hm hgood => ?_⟩
  · cases hr : x₁ m with
    | error e m' =>
      have hgrows := hx.grows hm
      rw [Run.after_error hr] at hgrows
      rw [Run.after_error (Run.bind_error hr)]
      exact hgrows
    | ok a m' =>
      obtain ⟨hleft, hgrows⟩ := hx.behind hm hr
      obtain ⟨b, hb⟩ := hx.answers hm hr
      obtain ⟨hdepth, hgrows'⟩ := (hf a b hb).grows hleft
      rw [Run.after_bind_ok f₁ hr]
      exact ⟨hdepth, hgrows.trans hgrows'⟩
  · cases hr : x₁ m with
    | error e m' =>
      rw [Run.bind_error hr] at hc
      cases hc
    | ok a m' =>
      obtain ⟨b, hb⟩ := hx.answers hm hr
      rw [Run.bind_ok hr] at hc
      exact (hf a b hb).answers (hx.behind hm hr).1 hc
  · cases hr : x₁ m₁ with
    | error e m' =>
      have hends := hx.ends hm
      rw [Run.after_error (Run.bind_error hr)] at hgood
      rw [Run.after_error hr, hr] at hends
      rw [Run.bind_error hr]
      -- The right run halts in the same way, or the halt is excused.
      generalize hr₂ : x₂ m₂ = r₂ at hends
      cases hends hgood with
      | excused he => exact .excused he
      | error hhost hreport =>
        rw [Run.bind_error hr₂]
        exact .error hhost hreport
    | ok a m' =>
      have hleft := (hx.behind hm.left hr).1
      obtain ⟨b, hb⟩ := hx.answers hm.left hr
      rw [Run.after_bind_ok f₁ hr] at hgood
      -- The frames are good behind both parts, so they are good behind the first.
      have hbefore := M.good_of_grows ((hf a b hb).grows hleft).2 hgood
      have hends := hx.ends hm
      rw [Run.after_ok hr, hr] at hends
      rw [Run.bind_ok hr]
      generalize hr₂ : x₂ m₂ = r₂ at hends
      cases hends hbefore with
      | ok hQ hmachines =>
        rw [Run.bind_ok hr₂]
        exact (hf _ _ hQ).ends hmachines hgood

/-! ## The state -/

/-- Computations that go on with something in which machines that correspond agree. -/
theorem read {ι : Type} {look₁ look₂ : Machine → ι} (k₁ : ι → Run α) (k₂ : ι → Run β)
    (hlook : ∀ {m₁ m₂ : Machine}, M.Machines d₁ d₂ m₁ m₂ → M.good m₁.frames →
      look₁ m₁ = look₂ m₂)
    (hk : ∀ c, Mirrors M d₁ d₂ (k₁ c) (k₂ c) Q) :
    Mirrors M d₁ d₂ (MonadState.get >>= fun m => k₁ (look₁ m))
      (MonadState.get >>= fun m => k₂ (look₂ m)) Q where
  grows {m} hm := (hk (look₁ m)).grows hm
  answers {m _ _} hm hx := (hk (look₁ m)).answers hm hx
  ends {m₁ m₂} hm hgood := by
    -- Both runs look before the frames grow, when they have been good as well.
    have hbefore := M.good_of_grows ((hk (look₁ m₁)).grows hm.left).2 hgood
    have hends := (hk (look₁ m₁)).ends hm hgood
    show M.Ends d₁ d₂ Q (k₁ (look₁ m₁) m₁) (k₂ (look₂ m₂) m₂)
    rw [← hlook hm hbefore]
    exact hends

/-- Computations that go on with the host and the routines of the machine. -/
theorem get {f₁ : Machine → Run α} {f₂ : Machine → Run β}
    (h : ∀ m₁ m₂ : Machine, m₁.host = m₂.host → m₁.functions = m₂.functions →
      m₁.mixins = m₂.mixins → Mirrors M d₁ d₂ (f₁ m₁) (f₂ m₂) Q) :
    Mirrors M d₁ d₂ (MonadState.get >>= f₁) (MonadState.get >>= f₂) Q where
  grows {m} hm := (h m m rfl rfl rfl).grows hm
  answers {m _ _} hm hx := (h m m rfl rfl rfl).answers hm hx
  ends {m₁ m₂} hm hgood := (h m₁ m₂ hm.host hm.functions hm.mixins).ends hm hgood

/-- The same change on both sides, of anything but frames and the depth of calls. -/
theorem modify {f : Machine → Machine} (hleft : ∀ {d : Nat} {m : Machine}, M.Left d m →
      M.Left d (f m) ∧ (f m).frames = m.frames)
    (h : ∀ {m₁ m₂ : Machine}, M.Machines d₁ d₂ m₁ m₂ → M.Machines d₁ d₂ (f m₁) (f m₂)) :
    Agree M d₁ d₂ (MonadStateOf.modifyGet (fun m => ((), f m)) : Run Unit)
      (MonadStateOf.modifyGet (fun m => ((), f m)) : Run Unit) where
  grows {m} hm := ⟨(hleft hm).1.depth, by
    show m.frames.Grows (f m).frames
    rw [(hleft hm).2]
    exact .refl _⟩
  answers _ _ := ⟨_, rfl⟩
  ends hm _ := .ok rfl (h hm)

theorem note (change : Report → Report) :
    Agree M d₁ d₂ (Run.note change) (Run.note change) :=
  modify (fun hm => ⟨⟨hm.depth, hm.grown⟩, rfl⟩) fun hm =>
    { hm with
      left := ⟨hm.left.depth, hm.left.grown⟩
      report := congrArg change hm.report }

theorem edit (loc : Coordinate) (change : Host → Except HostError Host) :
    Agree M d₁ d₂ (Run.edit loc change) (Run.edit loc change) := by
  refine ⟨fun {m} hm => ?_, fun _ _ => ⟨_, rfl⟩, fun {m₁ m₂} hm _ => ?_⟩
  · cases hc : change m.host with
    | ok host =>
      rw [Run.after_ok (Run.edit_ok loc change hc)]
      exact ⟨hm.depth, .refl _⟩
    | error e =>
      rw [Run.after_error (Run.edit_error loc change hc)]
      exact ⟨hm.depth, .refl _⟩
  · have hhost := hm.host
    cases hc : change m₁.host with
    | ok host =>
      rw [Run.edit_ok loc change hc, Run.edit_ok loc change (hhost ▸ hc)]
      refine .ok rfl { hm with left := ⟨hm.left.depth, hm.left.grown⟩, host := rfl, report := ?_ }
      show { m₁.report with edits := m₁.report.edits + 1 } = _
      rw [hm.report]
      rfl
    | error e =>
      rw [Run.edit_error loc change hc, Run.edit_error loc change (hhost ▸ hc)]
      exact .error hhost hm.report

/-! ## Scopes and calls -/

theorem child {env₁ env₂ : Environment} (henv : M.envs env₁ env₂) :
    Mirrors M d₁ d₂ (Run.child env₁) (Run.child env₂) M.fresh where
  grows hm := ⟨hm.depth, .fresh _⟩
  answers hm hx := by
    cases hx
    exact M.child hm.grown henv
  ends hm _ :=
    have hopened := M.opened hm.frames henv
    .ok hopened.2
      { hm with
        left := ⟨hm.left.depth, hm.left.grown.trans (.fresh _)⟩
        frames := hopened.1 }

theorem declare {env₁ env₂ : Environment} (henv : M.envs env₁ env₂) (name : String) (v : Value) :
    Agree M d₁ d₂ (Run.declare env₁ name v) (Run.declare env₂ name v) where
  grows hm := ⟨hm.depth, .bind _ _ _ _⟩
  answers _ _ := ⟨_, rfl⟩
  ends hm _ := .ok rfl
    { hm with
      left := ⟨hm.left.depth, hm.left.grown.trans (.bind _ _ _ _)⟩
      frames := M.declare name v hm.frames henv }

/-- A call that both limits admit. -/
theorem withCall_of_lt {limit₁ limit₂ : Nat} {loc : Coordinate} (hlimit₁ : d₁ < limit₁)
    (hlimit₂ : d₂ < limit₂) (hx : Mirrors M (d₁ + 1) (d₂ + 1) x₁ x₂ Q) :
    Mirrors M d₁ d₂ (Run.withCall limit₁ loc x₁) (Run.withCall limit₂ loc x₂) Q := by
  have hdeeper : ∀ {m : Machine}, M.Left d₁ m → M.Left (d₁ + 1) m.deeper :=
    fun hm => ⟨congrArg (· + 1) hm.depth, hm.grown⟩
  have hback : ∀ {m : Machine} {d : Nat}, m.callDepth = d + 1 → m.shallower.callDepth = d :=
    fun hd => congrArg (· - 1) hd
  refine ⟨fun {m} hm => ?_, fun {m m' a} hm ha => ?_, fun {m₁ m₂} hm hgood => ?_⟩
  · have hgrows := hx.grows (hdeeper hm)
    have hrun := Run.withCall_of_lt loc x₁ (hm.depth ▸ hlimit₁)
    cases hr : x₁ m.deeper with
    | ok a m' | error e m' =>
      rw [Run.after, hr] at hgrows
      rw [Run.after, hrun, hr]
      exact ⟨hback hgrows.1, hgrows.2⟩
  · rw [Run.withCall_of_lt loc x₁ (hm.depth ▸ hlimit₁)] at ha
    cases hr : x₁ m.deeper with
    | ok b m'' =>
      rw [hr] at ha
      cases ha
      exact hx.answers (hdeeper hm) hr
    | error e m'' =>
      rw [hr] at ha
      cases ha
  · have hrun₁ := Run.withCall_of_lt loc x₁ (hm.left.depth ▸ hlimit₁)
    have hrun₂ := Run.withCall_of_lt loc x₂ (hm.right ▸ hlimit₂)
    have hinside : M.Machines (d₁ + 1) (d₂ + 1) m₁.deeper m₂.deeper :=
      { hm with left := hdeeper hm.left, right := congrArg (· + 1) hm.right }
    have hends := hx.ends hinside
    rw [Run.after, hrun₁] at hgood
    rw [hrun₁, hrun₂]
    -- Taking the depth back changes neither the frames nor what is compared.
    cases hr : x₁ m₁.deeper with
    | ok a m' =>
      rw [hr] at hgood
      rw [Run.after_ok hr, hr] at hends
      generalize x₂ m₂.deeper = r₂ at hends
      cases hends hgood with
      | ok hQ hm' =>
        exact .ok hQ
          { hm' with
            left := ⟨hback hm'.left.depth, hm'.left.grown⟩
            right := hback hm'.right }
    | error e m' =>
      rw [hr] at hgood
      rw [Run.after_error hr, hr] at hends
      generalize x₂ m₂.deeper = r₂ at hends
      cases hends hgood with
      | excused he => exact .excused he
      | error hhost hreport => exact .error hhost hreport

/-- A call at the limit of the left run halts there, which may be excused. -/
theorem withCall_of_le (hexcuses : Halt.ExcusesLimits M.excused) {limit : Nat} {loc : Coordinate}
    (hlimit : limit ≤ d₁) :
    Mirrors M d₁ d₂ (Run.withCall limit loc x₁) x₂ Q := by
  have hstop : ∀ {m : Machine}, M.Left d₁ m →
      Run.withCall limit loc x₁ m = .error (.failed ⟨loc, .callLimit limit⟩) m :=
    fun hm => if_pos (hm.depth ▸ hlimit)
  refine ⟨fun {m} hm => ?_, fun {m m' a} hm ha => ?_, fun {m₁ m₂} hm _ => ?_⟩
  · rw [Run.after_error (hstop hm)]
    exact ⟨hm.depth, .refl _⟩
  · rw [hstop hm] at ha
    cases ha
  · rw [hstop hm.left]
    exact .excused (hexcuses _ rfl)

/-- At the same limit both runs halt alike. -/
theorem withCall_of_le_both {limit : Nat} {loc : Coordinate} (hlimit₁ : limit ≤ d₁)
    (hlimit₂ : limit ≤ d₂) :
    Mirrors M d₁ d₂ (Run.withCall limit loc x₁) (Run.withCall limit loc x₂) Q := by
  have hstop₁ : ∀ {m : Machine}, M.Left d₁ m →
      Run.withCall limit loc x₁ m = .error (.failed ⟨loc, .callLimit limit⟩) m :=
    fun hm => if_pos (hm.depth ▸ hlimit₁)
  have hstop₂ : ∀ {m : Machine}, m.callDepth = d₂ →
      Run.withCall limit loc x₂ m = .error (.failed ⟨loc, .callLimit limit⟩) m :=
    fun hdepth => if_pos (hdepth ▸ hlimit₂)
  refine ⟨fun {m} hm => ?_, fun {m m' a} hm ha => ?_, fun {m₁ m₂} hm _ => ?_⟩
  · rw [Run.after_error (hstop₁ hm)]
    exact ⟨hm.depth, .refl _⟩
  · rw [hstop₁ hm] at ha
    cases ha
  · rw [hstop₁ hm.left, hstop₂ hm.right]
    exact .error hm.host hm.report

/-- One call deeper. Where the left run is below its limit, the right run has to be below its
own, and if halts at limits are not excused, the two runs have to be equally deep. -/
theorem withCall {loc : Coordinate} (hroom : d₂ + M.left.settings.limits.maxCallDepth ≤
      d₁ + M.right.settings.limits.maxCallDepth)
    (hdepths : d₁ = d₂ ∨ Halt.ExcusesLimits M.excused)
    (h : d₁ < M.left.settings.limits.maxCallDepth → Mirrors M (d₁ + 1) (d₂ + 1) x₁ x₂ Q) :
    Mirrors M d₁ d₂ (Run.withCall M.left.settings.limits.maxCallDepth loc x₁)
      (Run.withCall M.right.settings.limits.maxCallDepth loc x₂) Q := by
  by_cases hd : d₁ < M.left.settings.limits.maxCallDepth
  · exact withCall_of_lt hd (by omega) (h hd)
  · rcases hdepths with rfl | hexcuses
    · rcases M.akin.limits with hlimits | hexcuses
      · rw [← hlimits]
        exact withCall_of_le_both (Nat.not_lt.mp hd) (Nat.not_lt.mp hd)
      · exact withCall_of_le hexcuses (Nat.not_lt.mp hd)
    · exact withCall_of_le hexcuses (Nat.not_lt.mp hd)

end Mirrors

/-! ## Twins -/

/-- Two runs that open the same frames and bind the same names in them, but may nest their calls
differently deep and have different limits. -/
def Mirror.twins {left right : Provision} {excused : Halt → Prop}
    (h : left.Akin right excused) : Mirror where
  left
  right
  base := .empty
  frames := Eq
  envs := Eq
  fresh := Eq
  good _ := True
  excused
  akin := h
  good_of_grows _ _ := trivial
  envs_of_fresh := id
  globalScope h := congrArg _ h
  child _ _ := ⟨_, rfl⟩
  opened hs h := by
    subst hs h
    exact ⟨rfl, rfl⟩
  declare _ _ hs h := by
    subst hs h
    rfl
  inward _ hs _ h := by
    subst hs h
    rfl
  outward _ hs _ h := by
    subst hs h
    rfl
  declared hs h := by
    subst hs h
    rfl

end Graft
