import Graft.Proofs.Run.Comparison
import Graft.Proofs.Run.Mirror

/-!
The interpreter runs alike on both sides of a mirror.

Every function of the interpreter mirrors itself when it is given the same expressions and
statements, environments that correspond, and routines that are entered alike. For expressions,
calls and loops this is so because mirrored computations are a way to compare two runs. For
statements the proof goes the way of the interpreter, by induction over their structure, and for
routines by induction over the number of levels that calls may nest.
-/

set_option autoImplicit false

namespace Graft

/-- Mirrored computations are a way to compare two runs, at whatever depths of calls. The code of
both runs is the same and any will do. -/
def Mirror.comparison (M : Mirror) (d₁ d₂ : Nat) : Comparison where
  left := M.left
  right := M.right
  functional _ := True
  envs := M.envs
  fresh := M.fresh
  budgets n₁ n₂ := (n₁ = n₂ ∧ M.left.settings.limits = M.right.settings.limits) ∨
    (n₁ ≤ n₂ ∧ Halt.ExcusesLimits M.excused)
  Alike Q x₁ x₂ := Mirrors M d₁ d₂ x₁ x₂ Q
  fields := M.akin.fields
  function?_eq _ := by rw [M.akin.registry]
  functional_function? _ := Routine.every_of (fun _ => trivial) _
  envs_of_fresh := M.envs_of_fresh
  globalScope := M.globalScope
  budgets_start := by
    rcases M.akin.limits with hlimits | hexcuses
    · exact .inl ⟨congrArg Limits.maxLoopIterations hlimits, hlimits⟩
    · exact .inr ⟨M.akin.loops, hexcuses⟩
  budgets_succ {n₁ n₂} h := by
    rcases h with ⟨rfl, hlimits⟩ | ⟨hle, hexcuses⟩
    · exact ⟨n₁, rfl, .inl ⟨rfl, hlimits⟩⟩
    · exact ⟨n₂ - 1, by omega, .inr ⟨by omega, hexcuses⟩⟩
  spent loc := by
    intro n x₂ h hspent
    rcases h with ⟨hn, hlimits⟩ | ⟨_, hexcuses⟩
    · -- With the same limits both runs are at theirs.
      rw [hspent hn.symm, hlimits]
      exact Mirrors.fail loc _
    · exact Mirrors.limited hexcuses rfl
  pure := Mirrors.pure
  bind := Mirrors.bind
  fail := Mirrors.fail
  get h := Mirrors.get fun m₁ m₂ hhost hfunctions _ =>
    h m₁ m₂ hhost hfunctions fun _ => Routine.every_of (fun _ => trivial) _
  inward name k₁ k₂ henv :=
    Mirrors.read k₁ k₂ fun hm hgood => M.inward name hm.frames hgood henv
  outward name k₁ k₂ henv :=
    Mirrors.read k₁ k₂ fun hm hgood => M.outward name hm.frames hgood henv
  declared k₁ k₂ henv := Mirrors.read k₁ k₂ fun hm _ => M.declared hm.frames henv
  child := Mirrors.child
  declare := Mirrors.declare
  edit := Mirrors.edit

/-- Routines are entered alike. -/
def Enter.Mirrors (M : Mirror) (d₁ d₂ : Nat) (enter₁ enter₂ : Enter) : Prop :=
  (M.comparison d₁ d₂).Enters enter₁ enter₂

namespace Mirrors

variable {M : Mirror} {d₁ d₂ : Nat} {enter₁ enter₂ : Enter}

/-! ## Selections -/

/-- The same blocks are run on both sides. -/
theorem isWanted_eq (M : Mirror) (attributes : List Attribute) (inside : Bool) :
    Run.isWanted M.left attributes inside = Run.isWanted M.right attributes inside := by
  simp only [Run.isWanted, M.akin.registry, M.akin.stage]

/-- Matches that are visited in turn are visited alike. The induction is on the matches. -/
theorem forMatches (loc : Coordinate) (ctx : Context) {body₁ body₂ : Context → Run Unit}
    (hbody : ∀ inner, Agree M d₁ d₂ (body₁ inner) (body₂ inner)) (ids : List ElementId) :
    Agree M d₁ d₂ (Run.forMatches loc ctx body₁ ids) (Run.forMatches loc ctx body₂ ids) :=
  Comparison.forMatches (C := M.comparison d₁ d₂) loc ctx ids fun inner _ => hbody inner

section

variable {attributes : List Attribute} {body₁ body₂ : Context → Run Unit} {ctx : Context}

/-- A block that is skipped is skipped on both sides. -/
theorem select_unwanted (hwanted : ¬ Run.isWanted M.left attributes ctx.selected = true)
    (loc : Coordinate) (selector : Selector) :
    Agree M d₁ d₂ (Run.select M.left ctx loc attributes selector body₁)
      (Run.select M.right ctx loc attributes selector body₂) := by
  have hrun₁ := Run.select_unwanted ctx loc selector body₁ hwanted
  rw [isWanted_eq] at hwanted
  have hrun₂ := Run.select_unwanted ctx loc selector body₂ hwanted
  refine ⟨fun {m} hm => ?_, fun _ _ => ⟨_, rfl⟩, fun {m₁ m₂} hm _ => ?_⟩
  · rw [Run.after_ok (hrun₁ m)]
    exact ⟨hm.depth, .refl _⟩
  · rw [hrun₁, hrun₂]
    refine .ok rfl { hm with left := ⟨hm.left.depth, hm.left.grown⟩, report := ?_ }
    simp only [Machine.skipped, hm.report]

/-- A block that is run has the same matches on both sides, or the left run halts in an excused
way. -/
theorem select_wanted (hwanted : Run.isWanted M.left attributes ctx.selected = true)
    (loc : Coordinate) (selector : Selector)
    (hbody : ∀ inner, Agree M d₁ d₂ (body₁ inner) (body₂ inner)) :
    Agree M d₁ d₂ (Run.select M.left ctx loc attributes selector body₁)
      (Run.select M.right ctx loc attributes selector body₂) := by
  have hrun₁ := Run.select_wanted ctx loc selector body₁ hwanted
  rw [isWanted_eq] at hwanted
  have hrun₂ := Run.select_wanted ctx loc selector body₂ hwanted
  refine ⟨fun {m} hm => ?_, fun _ _ => ⟨_, rfl⟩, fun {m₁ m₂} hm hgood => ?_⟩
  · have hrun := hrun₁ m
    rcases hr : selector.resolve M.left ctx.element m.host with ⟨result, host⟩
    rw [hr] at hrun
    rw [Run.after, hrun]
    cases result with
    | error e => exact ⟨hm.depth, .refl _⟩
    | ok ids =>
      have hleft : M.Left d₁ (m.ran.yielded host ids) := ⟨hm.depth, hm.grown⟩
      exact (forMatches loc ctx hbody ids).grows hleft
  · rw [Run.after, hrun₁] at hgood
    rw [hrun₁, hrun₂, ← hm.host]
    -- Where the selectors differ, the left run halts in an excused way.
    rcases M.akin.resolve selector ctx.element m₁.host with hsame | ⟨e, host, herror, hexcused⟩
    · rw [← hsame]
      rcases hr : selector.resolve M.left ctx.element m₁.host with ⟨result, host⟩
      rw [hr] at hgood
      cases result with
      | error e =>
        have hreport : m₁.ran.report = m₂.ran.report := by
          simp only [Machine.ran, hm.report]
        exact .error rfl hreport
      | ok ids =>
        refine (forMatches loc ctx hbody ids).ends ?_ hgood
        refine { hm with left := ⟨hm.left.depth, hm.left.grown⟩, host := rfl, report := ?_ }
        simp only [Machine.yielded, Machine.ran, hm.report]
    · rw [herror]
      exact .excused hexcused

end

/-- A selection has the same matches on both sides, or is skipped on both. -/
theorem select (ctx : Context) (loc : Coordinate) (attributes : List Attribute)
    (selector : Selector) {body₁ body₂ : Context → Run Unit}
    (hbody : ∀ inner, Agree M d₁ d₂ (body₁ inner) (body₂ inner)) :
    Agree M d₁ d₂ (Run.select M.left ctx loc attributes selector body₁)
      (Run.select M.right ctx loc attributes selector body₂) := by
  by_cases hw : Run.isWanted M.left attributes ctx.selected = true
  · exact select_wanted hw loc selector hbody
  · exact select_unwanted hw loc selector

/-! ## Statements -/

open Comparison

mutual

/-- **Statements.** A statement is run alike on both sides. The induction is on the statement, and
each case is a rule of the comparison, or of how mixins, libraries and selections are mirrored. -/
theorem runStatement (he : Enter.Mirrors M d₁ d₂ enter₁ enter₂) : ∀ (s : Statement)
    {env₁ env₂ : Environment}, M.envs env₁ env₂ → ∀ ctx : Context,
    (M.comparison d₁ d₂).Same (Run.runStatement M.left enter₁ env₁ ctx s)
      (Run.runStatement M.right enter₂ env₂ ctx s)
  | .declare _ _ e, _, _, henv, ctx | .set _ e, _, _, henv, ctx | .merge _ e, _, _, henv, ctx
  | .field _ _ _ e, _, _, henv, ctx | .expression _ e, _, _, henv, ctx =>
    runPlain he henv ctx _ (e.every_of fun _ => trivial)
  | .ret _ e, _, _, henv, ctx => runPlain he henv ctx _ (Expr.everyOf_of (fun _ => trivial) e)
  | .delete _, _, _, henv, ctx | .error _ _, _, _, henv, ctx => runPlain he henv ctx _ trivial
  | .conditional _ branches, _, _, henv, ctx => runBranches he branches henv ctx
  | .forRange loc name first last end_ body, _, _, henv, ctx =>
    runForRange he henv ctx (fun hscope => runBlock he body hscope ctx) loc name end_
      (first.every_of fun _ => trivial) (last.every_of fun _ => trivial)
  | .forEach loc key name iterable body, _, _, henv, ctx =>
    runForEach he henv ctx (fun hscope => runBlock he body hscope ctx) loc key name
      (iterable.every_of fun _ => trivial)
  | .whileTrue loc condition body, _, _, henv, ctx =>
    runWhileTrue he henv ctx (fun hscope => runBlock he body hscope ctx) loc
      (condition.every_of fun _ => trivial)
  | .includeMixin loc name args, _, _, henv, ctx => get fun m₁ m₂ _ _ hmixins => by
    rw [hmixins, M.akin.registry]
    cases (Table.get? m₂.mixins name).or (M.right.registry.mixin? name) with
    | none => exact fail _ _
    | some mixin =>
      have hargs := evaluateArgs he henv ctx args (Arg.everyIn_of (fun _ => trivial) args)
      exact (M.comparison d₁ d₂).bind hargs fun _ _ hargs => bindSame
        (includeMixin henv rfl (he name ctx loc (mixin.every_of fun _ => trivial) hargs))
        fun _ => same _
  | .selection loc attributes selector body, _, _, henv, ctx =>
    bindSame (select ctx loc attributes selector fun inner =>
      visitBody henv fun hscope => runBlock he body hscope inner) fun _ => same _
  | .importLibrary loc name, _, _, henv, ctx => by
    simp only [Run.runStatement, M.akin.registry]
    cases M.right.registry.library? name with
    | none => exact fail _ _
    | some library =>
      exact bindSame (he name ctx loc (Routine.every_of (fun _ => trivial) _) .nil
        (M.globalScope henv)) fun _ => same _
  | .stage _ _ _, _, _, _, _ => bindSame (note _) fun _ => same _
  | .function loc none _ _, _, _, _, _ => fail loc .namelessFunction
  | .function _ (some name) params body, _, _, _, _ =>
    bindSame (modify
      (f := fun m => { m with functions := Table.insert m.functions name ⟨params, body⟩ })
      (fun hm => ⟨⟨hm.depth, hm.grown⟩, rfl⟩) fun hm =>
        { hm with
          left := ⟨hm.left.depth, hm.left.grown⟩
          functions := congrArg (Table.insert · name ⟨params, body⟩) hm.functions })
      fun _ => same _
  | .mixin _ name params body, _, _, _, _ =>
    bindSame (modify
      (f := fun m => { m with mixins := Table.insert m.mixins name ⟨params, body⟩ })
      (fun hm => ⟨⟨hm.depth, hm.grown⟩, rfl⟩) fun hm =>
        { hm with
          left := ⟨hm.left.depth, hm.left.grown⟩
          mixins := congrArg (Table.insert · name ⟨params, body⟩) hm.mixins })
      fun _ => same _

theorem runBlock (he : Enter.Mirrors M d₁ d₂ enter₁ enter₂) : ∀ (body : List Statement)
    {env₁ env₂ : Environment}, M.envs env₁ env₂ → ∀ ctx : Context,
    (M.comparison d₁ d₂).Same (Run.runBlock M.left enter₁ env₁ ctx body)
      (Run.runBlock M.right enter₂ env₂ ctx body)
  | [], _, _, _, _ => same _
  | s :: rest, _, _, henv, ctx => runCons (runStatement he s henv ctx) (runBlock he rest henv ctx)

theorem runBranches (he : Enter.Mirrors M d₁ d₂ enter₁ enter₂) : ∀ (branches : Branches)
    {env₁ env₂ : Environment}, M.envs env₁ env₂ → ∀ ctx : Context,
    (M.comparison d₁ d₂).Same (Run.runBranches M.left enter₁ env₁ ctx branches)
      (Run.runBranches M.right enter₂ env₂ ctx branches)
  | .nothing, _, _, _, _ => same _
  | .otherwise body, _, _, henv, ctx => inChild henv fun hscope => runBlock he body hscope ctx
  | .when loc condition body rest, _, _, henv, ctx =>
    runWhen he henv ctx (fun hscope => runBlock he body hscope ctx) loc
      (condition.every_of fun _ => trivial) (runBranches he rest henv ctx)

end

end Mirrors

/-- **Mirrored runs.** Routines are entered alike, whatever levels of calls are left to the two
runs, as long as these are enough for the limits: the left run is not beyond its limit, the right
run has at least as much room below its own, and if halts at limits are not excused, the two
are equally deep. -/
theorem Run.enterWithin_mirrors (M : Mirror) : ∀ (levels₁ levels₂ : Nat) {d₁ d₂ : Nat},
    d₁ ≤ M.left.settings.limits.maxCallDepth →
    M.left.settings.limits.maxCallDepth < d₁ + levels₁ →
    M.right.settings.limits.maxCallDepth < d₂ + levels₂ →
    d₂ + M.left.settings.limits.maxCallDepth ≤ d₁ + M.right.settings.limits.maxCallDepth →
    (d₁ = d₂ ∨ Halt.ExcusesLimits M.excused) →
    Enter.Mirrors M d₁ d₂ (enterWithin M.left levels₁) (enterWithin M.right levels₂)
  | 0, _, _, _, hd, hlevels, _, _, _ => absurd hlevels (Nat.not_lt.mpr hd)
  | _ + 1, 0, _, _, hd, _, hlevels, hroom, _ => by omega
  | levels₁ + 1, levels₂ + 1, d₁, d₂, hd, hlevels₁, hlevels₂, hroom, hdepths => by
    intro callee routine args₁ args₂ frame₁ frame₂ ctx loc _ hargs hframe
    refine Mirrors.withCall hroom hdepths fun hlt => ?_
    -- Inside the call both runs are one deeper and have one level less.
    have he : Enter.Mirrors M (d₁ + 1) (d₂ + 1) (enterWithin M.left levels₁)
        (enterWithin M.right levels₂) :=
      enterWithin_mirrors M levels₁ levels₂ hlt (by omega) (by omega) (by omega)
        (hdepths.imp_left (congrArg (· + 1)))
    have hparams := Param.everyIn_of (fun _ => trivial) routine.params
    exact Comparison.bindSame
      (Comparison.bindArguments he hframe ctx callee hparams (hargs.fillAll_eq callee) loc)
      fun _ => Mirrors.runBlock he routine.body hframe ctx

/-! ## Executions -/

/-- Statements that end alike are executed alike, unless the left run halts in an excused way. -/
theorem Mirror.Ends.outcome {M : Mirror} {d₁ d₂ : Nat} {Q : Flow → Flow → Prop}
    {r₁ r₂ : EStateM.Result Halt Machine Flow} (h : M.Ends d₁ d₂ Q r₁ r₂) :
    (∃ e, (Patch.outcome r₁).1 = .error e ∧ M.excused e) ∨
      Patch.outcome r₂ = Patch.outcome r₁ := by
  cases h with
  | excused he => exact .inl ⟨_, rfl, he⟩
  | ok _ hm =>
    right
    simp only [Patch.outcome, hm.host, hm.report]
  | error hhost _ =>
    right
    simp only [Patch.outcome, hhost]

end Graft
