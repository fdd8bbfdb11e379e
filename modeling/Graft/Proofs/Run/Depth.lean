import Graft.Proofs.Run.Ending

/-!
The depth of calls.

A call is counted when a routine is entered, and the count is taken back on every way out, so what
the depth is behind a part is what it was before. In between it is the depth at the beginning and
as many as there are routines that have been entered since and are still under way. The limit is
asked for before a call is counted, so the depth never exceeds it, and a run fails at the limit
exactly if a routine is entered with as many under way as the limit admits.

Routines are entered by calls of functions and closures, by inclusions of mixins and by imports of
libraries.
-/

set_option autoImplicit false

namespace Graft

open Run

/-! ## Anything at all -/

/-- The terms of running anything: all statements are admitted in all frames, and no account is
kept of elements. -/
def Terms.anything (p : Provision) : Terms where
  provision := p
  statements := fun _ => True
  frames := fun _ => True
  base := 0
  accounted := False
  own := fun _ _ => trivial
  global := fun _ _ => trivial
  registry := Registry.every_of (fun _ => trivial) _

/-- Code that is run: an expression, a statement or a block. -/
inductive Part.IsCode : Part → Prop
  | expr (env : Environment) (ctx : Context) (e : Expr) : IsCode (.expr env ctx e)
  | statement (env : Environment) (ctx : Context) (s : Statement) : IsCode (.statement env ctx s)
  | block (env : Environment) (ctx : Context) (body : List Statement) : IsCode (.block env ctx body)

/-- Code keeps to these terms on every machine. -/
theorem Moment.sound_anything (p : Provision) {μ : Moment} (h : μ.part.IsCode) :
    μ.Sound (.anything p) fun _ => False := by
  obtain ⟨l, part, m⟩ := μ
  have hctx : ∀ ctx : Context, ctx.Admitted (.anything p) fun _ => False :=
    fun _ haccounted _ => haccounted.elim
  refine ⟨⟨fun _ => Routine.every_of (fun _ => trivial) _,
    fun _ _ _ _ => Routine.every_of (fun _ => trivial) _, Nat.zero_le _, fun _ h => h.elim⟩, ?_⟩
  cases h with
  | expr env ctx e => exact ⟨Expr.every_of (fun _ => trivial) e, hctx ctx⟩
  | statement env ctx s => exact ⟨Statement.every_of (fun _ => trivial) s, trivial, hctx ctx⟩
  | block env ctx body => exact ⟨Statement.everyIn_of (fun _ => trivial) body, trivial, hctx ctx⟩

/-! ## Routines under way -/

/-- What makes a part enter a routine: a call, a closure, an inclusion or an import. -/
inductive Part.Enters : Part → Prop
  | function {env : Environment} {ctx : Context} {loc : Coordinate} {name : String}
    {receiver : Option Value} {args : List Argument} : Enters (.call env ctx loc name receiver args)
  | closure {ctx : Context} {loc : Coordinate} {c : Closure} {values : List Value} :
    Enters (.closure ctx loc c values)
  | mixin {env : Environment} {ctx : Context} {loc : Coordinate} {name : String} {args : List Arg} :
    Enters (.statement env ctx (.includeMixin loc name args))
  | library {env : Environment} {ctx : Context} {loc : Coordinate} {name : String} :
    Enters (.statement env ctx (.importLibrary loc name))

theorem Part.IsCode.not_isRoutine {part : Part} (h : part.IsCode) : part.isRoutine = false := by
  cases h <;> rfl

theorem Part.Enters.not_isRoutine {part : Part} (h : part.Enters) : part.isRoutine = false := by
  cases h <;> rfl

namespace Moment

variable {p : Provision} {μ ν κ : Moment} {n : Nat}

/-- One level is used up inside a routine, and nowhere else. -/
theorem Next.levels_eq (h : Next p μ ν) :
    μ.levels = ν.levels + if μ.part.isRoutine then 1 else 0 := by
  cases h <;> rfl

/-- Routines are entered in four ways. -/
theorem Next.enters (h : Next p μ ν) (hν : ν.part.isRoutine = true) : μ.part.Enters := by
  cases h with
  | routine => exact .function
  | closure => exact .closure
  | mixin => exact .mixin
  | library => exact .library
  | _ => cases hν

/-- A moment that is reached from another while so many routines are under way that have been
entered since. -/
inductive Underway (p : Provision) (μ : Moment) : Nat → Moment → Prop
  | here : Underway p μ 0 μ
  | next {n : Nat} {κ ν : Moment} :
    Underway p μ n κ → κ.part.isRoutine = false → Next p κ ν → Underway p μ n ν
  | inside {n : Nat} {κ ν : Moment} :
    Underway p μ n κ → κ.part.isRoutine = true → Next p κ ν → Underway p μ (n + 1) ν

theorem Underway.reaches (h : Underway p μ n ν) : Reaches p μ ν := by
  induction h with
  | here => exact .refl
  | next _ _ hnext ih | inside _ _ hnext ih => exact ih.tail hnext

theorem Reaches.underway (h : Reaches p μ ν) : ∃ n, Underway p μ n ν := by
  induction h with
  | refl => exact ⟨0, .here⟩
  | @tail κ ν _ hnext ih =>
    obtain ⟨n, hκ⟩ := ih
    cases hroutine : κ.part.isRoutine with
    | false => exact ⟨n, hκ.next hroutine hnext⟩
    | true => exact ⟨n + 1, hκ.inside hroutine hnext⟩

/-- A routine that is under way has been entered in one of the four ways. -/
theorem Underway.entered (h : Underway p μ n ν) (hμ : μ.part.IsCode)
    (hν : ν.part.isRoutine = true) : ∃ κ, Underway p μ n κ ∧ Next p κ ν ∧ κ.part.Enters := by
  cases h with
  | here => exact absurd (hμ.not_isRoutine.symm.trans hν) Bool.false_ne_true
  | next hκ _ hnext => exact ⟨_, hκ, hnext, hnext.enters hν⟩
  | inside hκ hroutine hnext =>
    -- A routine goes on with its defaults or its body.
    have houtside := (hnext.enters hν).not_isRoutine
    exact absurd (houtside.symm.trans hroutine) Bool.false_ne_true

/-! ## The depth -/

section

variable {t : Terms} {X : ElementId → Prop}

/-- **One step.** Inside a routine the depth is one more, and this is admitted; elsewhere it stays
the same. -/
theorem Next.callDepth (h : Next t.provision μ ν) (hμ : μ.Sound t X) :
    (μ.part.isRoutine = false ∧ ν.machine.callDepth = μ.machine.callDepth) ∨
      (μ.part.isRoutine = true ∧ ν.machine.callDepth = μ.machine.callDepth + 1 ∧
        μ.machine.callDepth < t.callLimit) := by
  have hlevels := h.levels_eq
  obtain ⟨_, hcalls, -⟩ := h.sound hμ
  cases hroutine : μ.part.isRoutine with
  | false =>
    rw [hroutine, if_neg Bool.false_ne_true] at hlevels
    cases hcalls with
    | level _ hev => exact .inl ⟨rfl, hev.callDepth_eq⟩
    | deeper hmore _ _ => omega
  | true =>
    rw [hroutine, if_pos rfl] at hlevels
    cases hcalls with
    | level hsame _ => omega
    | deeper _ hlt hev => exact .inr ⟨rfl, hev.callDepth_eq, hlt⟩

/-- **A run.** The depth at a moment counts the routines that are under way. -/
theorem Underway.callDepth (h : Underway t.provision μ n ν) (hμ : μ.Sound t X)
    (hlimit : μ.machine.callDepth ≤ t.callLimit) :
    ν.machine.callDepth = μ.machine.callDepth + n ∧ ν.machine.callDepth ≤ t.callLimit ∧
      μ.levels = ν.levels + n := by
  induction h with
  | here => exact ⟨rfl, hlimit, rfl⟩
  | next hκ hroutine hnext ih =>
    obtain ⟨hdepth, hbound, hlevels⟩ := ih
    obtain ⟨_, -, hsound⟩ := hκ.reaches.sound hμ
    have hnow := hnext.levels_eq
    rw [hroutine, if_neg Bool.false_ne_true] at hnow
    rcases hnext.callDepth hsound with ⟨-, hsame⟩ | ⟨hinside, -⟩
    · exact ⟨hsame.trans hdepth, hsame ▸ hbound, hlevels.trans (by omega)⟩
    · rw [hroutine] at hinside
      cases hinside
  | inside hκ hroutine hnext ih =>
    obtain ⟨hdepth, -, hlevels⟩ := ih
    obtain ⟨_, -, hsound⟩ := hκ.reaches.sound hμ
    have hnow := hnext.levels_eq
    rw [hroutine, if_pos rfl] at hnow
    rcases hnext.callDepth hsound with ⟨houtside, -⟩ | ⟨-, hmore, hlt⟩
    · rw [hroutine] at houtside
      cases houtside
    · exact ⟨by omega, by omega, by omega⟩

end

end Moment

/-! ## Inside routines -/

/-- What is run inside a routine: its parameters are bound, and then comes its body. -/
def Run.inside (p : Provision) (l : Nat) (callee : String) (r : Routine) (args : List Argument)
    (frame : Environment) (ctx : Context) (loc : Coordinate) : Run Flow := do
  bindArguments (evaluate p (enterWithin p l) frame ctx) callee r.params args frame loc
  runBlock p (enterWithin p l) frame ctx r.body

section

variable {p : Provision} {l : Nat} {callee : String} {r : Routine} {args : List Argument}
  {frame : Environment} {ctx : Context} {loc : Coordinate} {m : Machine}

theorem Run.enterWithin_succ :
    enterWithin p (l + 1) callee r args frame ctx loc =
      withCall p.settings.limits.maxCallDepth loc (inside p l callee r args frame ctx loc) := rfl

/-- Whatever a routine ends with, there is a call to take back. -/
theorem Run.callDepth_after_inside {t : Terms} {X : ElementId → Prop}
    (h : Moment.Sound t X ⟨l + 1, .routine callee r args frame ctx loc, m⟩) :
    ((inside t.provision l callee r args frame ctx loc).after m.deeper).callDepth =
      m.callDepth + 1 := by
  obtain ⟨hm, hr, hframe, hctx⟩ := h
  have he : Enter.Keeps t (enterWithin t.provision l) := enterWithin_keeps t l
  have hinside : Makes t X (inside t.provision l callee r args frame ctx loc) fun _ => True :=
    (Makes.bindArguments he hr.params hframe hctx callee args loc).bind fun _ _ =>
      Makes.runBlock he r.body hr.body hframe hctx
  exact (hinside m.deeper (hm.atDepth _)).1.callDepth_eq

/-- At the limit a routine is not entered, and nothing changes. -/
theorem Run.enterWithin_of_limit (h : p.settings.limits.maxCallDepth ≤ m.callDepth) :
    enterWithin p (l + 1) callee r args frame ctx loc m =
      .error (.failed ⟨loc, .callLimit p.settings.limits.maxCallDepth⟩) m :=
  if_pos h

end

/-! ## Runs -/

namespace Moment

variable {p : Provision} {μ ν : Moment} {n : Nat}

/-- Code is run below the limit if the depth is not above it already, and if there are levels left
for as many calls as the limit still admits. -/
structure Admissible (p : Provision) (μ : Moment) : Prop where
  code : μ.part.IsCode
  depth : μ.machine.callDepth ≤ p.settings.limits.maxCallDepth
  levels : p.settings.limits.maxCallDepth < μ.machine.callDepth + μ.levels

theorem Admissible.sound (hμ : μ.Admissible p) : μ.Sound (.anything p) fun _ => False :=
  sound_anything p hμ.code

/-- The depth at a moment counts the routines that are under way, and is not above the limit. -/
theorem Admissible.callDepth (hμ : μ.Admissible p) (h : μ.Underway p n ν) :
    ν.machine.callDepth = μ.machine.callDepth + n ∧
      ν.machine.callDepth ≤ p.settings.limits.maxCallDepth ∧ μ.levels = ν.levels + n :=
  Underway.callDepth (t := .anything p) h hμ.sound hμ.depth

theorem Admissible.sound_at (hμ : μ.Admissible p) (h : μ.Underway p n ν) :
    ∃ X, ν.Sound (.anything p) X := by
  obtain ⟨X, -, hν⟩ := Reaches.sound (t := .anything p) h.reaches hμ.sound
  exact ⟨X, hν⟩

/-- There is a level left for the call that fails at the limit. -/
theorem Admissible.spare (hμ : μ.Admissible p) {l : Nat}
    (hfull : μ.machine.callDepth + n ≤ p.settings.limits.maxCallDepth) (hl : μ.levels = l + n) :
    0 < l := by
  have hlevels := hμ.levels
  omega

/-- So levels do not run out. -/
theorem Admissible.not_halts_exhausted (hμ : μ.Admissible p) : ¬ μ.Halts p .exhausted := by
  intro hhalts
  rcases hhalts.origin with ⟨f, hf⟩ | ⟨ν, hν, ⟨ht, _⟩ | ⟨_, hzero⟩⟩
  · cases hf
  · cases ht
  · obtain ⟨n, hunder⟩ := hν.underway
    obtain ⟨hdepth, hbound, hlevels⟩ := hμ.callDepth hunder
    exact (hμ.spare (hdepth ▸ hbound) hlevels).ne' hzero

/-- An execution is admissible at its beginning. -/
theorem admissible_start (p : Provision) (patch : Patch) (h : Host) :
    (start p patch h).Admissible p where
  code := .block _ _ _
  depth := Nat.zero_le _
  levels := by
    show p.settings.limits.maxCallDepth < 0 + (p.settings.limits.maxCallDepth + 1)
    omega

/-- **Calls fail at the limit** exactly if a routine is entered with as many under way as the limit
admits. -/
theorem Admissible.halts_callLimit_iff (hμ : μ.Admissible p) {loc : Coordinate} {limit : Nat} :
    μ.Halts p (.failed ⟨loc, .callLimit limit⟩) ↔
      limit = p.settings.limits.maxCallDepth ∧
        ∃ n l callee r args frame ctx m,
          μ.Underway p n ⟨l, .routine callee r args frame ctx loc, m⟩ ∧
          μ.machine.callDepth + n = p.settings.limits.maxCallDepth := by
  have hrefused : μ.Halts p (.failed ⟨loc, .callLimit limit⟩) ↔
      ∃ ν, Reaches p μ ν ∧ ν.Refuses p ⟨loc, .callLimit limit⟩ :=
    halts_iff_refuses rfl fun h => by cases h
  rw [hrefused]
  constructor
  · rintro ⟨ν, hν, hrefuses⟩
    obtain ⟨n, hunder⟩ := hν.underway
    obtain ⟨hdepth, hbound, -⟩ := hμ.callDepth hunder
    cases hrefuses with
    | call hfull =>
      have hreached := hdepth.symm.trans (hbound.antisymm hfull)
      exact ⟨rfl, n, _, _, _, _, _, _, _, hunder, hreached⟩
  · rintro ⟨rfl, n, l, callee, r, args, frame, ctx, m, hunder, hfull⟩
    obtain ⟨hdepth, -, hlevels⟩ := hμ.callDepth hunder
    obtain ⟨l, rfl⟩ : ∃ l', l = l' + 1 := Nat.exists_eq_add_one.mpr (hμ.spare hfull.le hlevels)
    exact ⟨_, hunder.reaches, .call (hfull.symm.trans hdepth.symm).le⟩

/-- **The depth of calls is balanced and bounded.** While code is run, the depth at any moment is
that at the beginning and as many as there are routines under way, it is not above the limit, and
it is the same behind the part that is run there, however this ends. A routine has been entered by
a call, a closure, an inclusion or an import. Below the limit, what is run inside it leaves a call
to take back, and at the limit it fails and nothing changes. Levels do not run out, and code fails
at the limit exactly if a routine is entered with as many under way as the limit admits. An
execution is such code, outside of all calls at its beginning. -/
theorem callDepth_balanced (p : Provision) :
    let limit := p.settings.limits.maxCallDepth
    (∀ μ, Admissible p μ →
      (∀ n ν, μ.Underway p n ν →
        ν.machine.callDepth = μ.machine.callDepth + n ∧ ν.machine.callDepth ≤ limit ∧
          (ν.after p).callDepth = ν.machine.callDepth) ∧
      (∀ n l callee r args frame ctx loc m,
        μ.Underway p n ⟨l, .routine callee r args frame ctx loc, m⟩ →
          (∃ κ, μ.Underway p n κ ∧ Next p κ ⟨l, .routine callee r args frame ctx loc, m⟩ ∧
            κ.part.Enters) ∧
          ∃ deeper, l = deeper + 1 ∧
            enterWithin p l callee r args frame ctx loc =
              withCall limit loc (inside p deeper callee r args frame ctx loc) ∧
            (m.callDepth < limit →
              ((inside p deeper callee r args frame ctx loc).after m.deeper).callDepth =
                m.callDepth + 1) ∧
            (m.callDepth = limit → enterWithin p l callee r args frame ctx loc m =
              .error (.failed ⟨loc, .callLimit limit⟩) m)) ∧
      ¬ μ.Halts p .exhausted ∧
      ∀ loc k, μ.Halts p (.failed ⟨loc, .callLimit k⟩) ↔
        k = limit ∧ ∃ n l callee r args frame ctx m,
          μ.Underway p n ⟨l, .routine callee r args frame ctx loc, m⟩ ∧
          μ.machine.callDepth + n = limit) ∧
    ∀ patch h, (start p patch h).Admissible p ∧
      (∀ n ν, (start p patch h).Underway p n ν → ν.machine.callDepth = n) ∧
      ∀ loc k, (patch.execute p h).1 = .error (.failed ⟨loc, .callLimit k⟩) ↔
        k = limit ∧ ∃ l callee r args frame ctx m,
          (start p patch h).Underway p limit ⟨l, .routine callee r args frame ctx loc, m⟩ := by
  intro limit
  refine ⟨fun μ hμ => ⟨fun n ν hunder => ?_, fun n l callee r args frame ctx loc m hunder =>
    ⟨hunder.entered hμ.code rfl, ?_⟩, hμ.not_halts_exhausted,
      fun loc k => hμ.halts_callLimit_iff⟩,
    fun patch h => ⟨admissible_start p patch h, fun n ν hunder => ?_, fun loc k => ?_⟩⟩
  · obtain ⟨hdepth, hbound, -⟩ := hμ.callDepth hunder
    exact ⟨hdepth, hbound, (hμ.sound_at hunder).elim fun _ hν => hν.run.callDepth_eq⟩
  · obtain ⟨hdepth, hbound, hlevels⟩ := hμ.callDepth hunder
    obtain ⟨deeper, rfl⟩ := Nat.exists_eq_add_one.mpr (hμ.spare (hdepth ▸ hbound) hlevels)
    obtain ⟨_, hsound⟩ := hμ.sound_at hunder
    exact ⟨deeper, rfl, enterWithin_succ, fun _ => callDepth_after_inside hsound,
      fun hfull => enterWithin_of_limit hfull.ge⟩
  · have hdepth := ((admissible_start p patch h).callDepth hunder).1
    exact hdepth.trans (Nat.zero_add n)
  · rw [execute_eq_error_iff, (admissible_start p patch h).halts_callLimit_iff]
    constructor
    · rintro ⟨hk, n, l, callee, r, args, frame, ctx, m, hunder, hfull⟩
      obtain rfl : n = limit := (Nat.zero_add n).symm.trans hfull
      exact ⟨hk, l, callee, r, args, frame, ctx, m, hunder⟩
    · rintro ⟨hk, l, callee, r, args, frame, ctx, m, hunder⟩
      exact ⟨hk, limit, l, callee, r, args, frame, ctx, m, hunder, Nat.zero_add limit⟩

/-- With the limit 1, a function that calls itself fails inside its first call, and outside of this
call the depth is what it was. -/
theorem callDepth_balanced_recursion :
    let p : Provision := ⟨.withActiveMods [], { Settings.standard with limits := ⟨1, 1, 1⟩ }⟩
    let call : Expr := .call .origin "f" []
    let patch : Patch := ⟨.origin, [.function .origin (some "f") [] [.ret .origin (some call)],
      .expression .origin call], false⟩
    let μ := start p patch (Host.empty [])
    μ.Admissible p ∧
      (patch.execute p (Host.empty [])).1 = .error (.failed ⟨.origin, .callLimit 1⟩) ∧
      (∃ l callee r args frame ctx m,
        μ.Underway p 1 ⟨l, .routine callee r args frame ctx .origin, m⟩ ∧ m.callDepth = 1) ∧
      (μ.after p).callDepth = 0 := by
  intro p call patch μ
  obtain ⟨hcode, hexecution⟩ := callDepth_balanced p
  obtain ⟨hμ, hcount, hlimit⟩ := hexecution patch (Host.empty [])
  obtain ⟨hbalanced, -⟩ := hcode μ hμ
  have hfails : (patch.execute p (Host.empty [])).1 = .error (.failed ⟨.origin, .callLimit 1⟩) := by
    decide +kernel
  obtain ⟨-, l, callee, r, args, frame, ctx, m, hunder⟩ := (hlimit .origin 1).mp hfails
  exact ⟨hμ, hfails, ⟨l, callee, r, args, frame, ctx, m, hunder, hcount 1 _ hunder⟩,
    (hbalanced 0 μ .here).2.2⟩

end Moment

end Graft
