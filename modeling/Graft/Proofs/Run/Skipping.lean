import Graft.Proofs.Patch.Prune
import Graft.Proofs.Run.Comparison

/-!
Skipped blocks leave no trace.

The run of a patch is compared with the run of the same patch without the blocks that may not run,
where mixins and libraries are pruned as well. After the same steps the machines of the two runs
differ in two respects only: the mixins that were defined on the way are pruned in the second, and
no block has been skipped there. Neither is ever looked at in a way that tells the runs apart.

Whether a statement is pruned as one inside a block is said by the context in which it is run. That
the two agree is what the levels of statements are for: what is of a block is run against a
selected element, and what is of a document is not.
-/

set_option autoImplicit false

namespace Graft

variable {α β γ δ : Type}

/-! ## Machines -/

/-- The same report, with no block skipped. -/
def Report.unskipped (r : Report) : Report :=
  { r with blocksSkipped := 0 }

namespace Machine

/-- The machine of a run that has come as far without the blocks that may not run. -/
def pruned (p : Provision) (m : Machine) : Machine :=
  { m with mixins := m.mixins.change (Routine.prune p true), report := m.report.unskipped }

/-- In the routines that have been defined, the statements stand where they may. -/
structure Placed (m : Machine) : Prop where
  functions : ∀ {name : String} {f : Routine},
    Table.get? m.functions name = some f → f.Every Level.function.Admits
  mixins : ∀ {name : String} {f : Routine}, Table.get? m.mixins name = some f → f.Placed .block

section

variable {p : Provision} {m : Machine} {name : String}

/-- The mixin of a name is the pruned one. -/
theorem mixin?_pruned :
    (Table.get? (m.pruned p).mixins name).or (p.prune.registry.mixin? name) =
      ((Table.get? m.mixins name).or (p.registry.mixin? name)).map (Routine.prune p true) := by
  rw [pruned, Table.get?_change, Provision.mixin?_prune, Option.map_or]

/-- A mixin is pruned before it is defined or behind that. -/
theorem insert_pruned (name : String) (r : Routine) (m : Machine) :
    { m.pruned p with mixins := Table.insert (m.pruned p).mixins name (r.prune p true) } =
      { m with mixins := Table.insert m.mixins name r }.pruned p := by
  rw [pruned, pruned, Table.change_insert]

/-- Mixins stand where they may, whether a patch or the registry has defined them. -/
theorem Placed.mixin (hm : m.Placed) (hp : p.registry.FromDrafts) {f : Routine}
    (hf : (Table.get? m.mixins name).or (p.registry.mixin? name) = some f) : f.Placed .block := by
  rcases Option.or_eq_some_iff.mp hf with hown | ⟨_, hregistered⟩
  · exact hm.mixins hown
  · exact hp.placed_mixin hregistered

end

end Machine

namespace Run

/-! ## Pruned computations -/

/-- How a computation and the pruned one end, with the same halt or with answers that are related
by `Q`. -/
inductive PrunedEnds (p : Provision) (Q : α → β → Prop) :
    EStateM.Result Halt Machine α → EStateM.Result Halt Machine β → Prop
  | ok {a : α} {b : β} {m : Machine} :
    Q a b → m.Placed → PrunedEnds p Q (.ok a m) (.ok b (m.pruned p))
  | error {e : Halt} {m : Machine} : PrunedEnds p Q (.error e m) (.error e (m.pruned p))

/-- The right computation does what the left one does, but for blocks that may not run. -/
def Pruned (p : Provision) (Q : α → β → Prop) (x₁ : Run α) (x₂ : Run β) : Prop :=
  ∀ m : Machine, m.Placed → PrunedEnds p Q (x₁ m) (x₂ (m.pruned p))

namespace Pruned

variable {p : Provision} {Q : α → β → Prop} {R : γ → δ → Prop} {x₁ : Run α} {x₂ : Run β}

theorem pure {a : α} {b : β} (h : Q a b) : Pruned p Q (pure a) (pure b) :=
  fun _ hm => .ok h hm

/-- A computation that halts does so alike in both runs. -/
theorem fail (loc : Coordinate) (cause : Cause) :
    Pruned p Q (Run.fail loc cause) (Run.fail loc cause) :=
  fun _ _ => .error

/-- The second computations are compared for answers that are related by what the first are
compared by. -/
theorem bind {f₁ : α → Run γ} {f₂ : β → Run δ} (hx : Pruned p Q x₁ x₂)
    (hf : ∀ a b, Q a b → Pruned p R (f₁ a) (f₂ b)) :
    Pruned p R (x₁ >>= f₁) (x₂ >>= f₂) := by
  intro m hm
  have hends := hx m hm
  generalize h₁ : x₁ m = r₁, h₂ : x₂ (m.pruned p) = r₂ at hends
  cases hends with
  | ok hQ hm' =>
    rw [bind_ok h₁, bind_ok h₂]
    exact hf _ _ hQ _ hm'
  | error =>
    rw [bind_error h₁, bind_error h₂]
    exact .error

/-- What looks at the machine may use that its routines stand where they may. -/
theorem get {f₁ : Machine → Run α} {f₂ : Machine → Run β}
    (h : ∀ m : Machine, m.Placed → Pruned p Q (f₁ m) (f₂ (m.pruned p))) :
    Pruned p Q (MonadState.get >>= f₁) (MonadState.get >>= f₂) :=
  fun m hm => h m hm m hm

/-- A change of the machine is made before pruning it or behind that. -/
theorem modify {f₁ f₂ : Machine → Machine}
    (hpruned : ∀ m : Machine, f₂ (m.pruned p) = (f₁ m).pruned p)
    (hplaced : ∀ {m : Machine}, m.Placed → (f₁ m).Placed) :
    Pruned p (· = ·) (MonadStateOf.modifyGet (fun m => ((), f₁ m)) : Run Unit)
      (MonadStateOf.modifyGet (fun m => ((), f₂ m)) : Run Unit) := by
  intro m hm
  show PrunedEnds p _ (.ok () (f₁ m)) (.ok () (f₂ (m.pruned p)))
  rw [hpruned]
  exact .ok rfl (hplaced hm)

theorem child (env : Environment) : Pruned p (· = ·) (Run.child env) (Run.child env) :=
  fun m hm => .ok (m := m.opened) rfl ⟨hm.functions, hm.mixins⟩

/-- An edit of the host is the same in both runs, as the hosts are. -/
theorem edit (loc : Coordinate) (change : Host → Except HostError Host) :
    Pruned p (· = ·) (Run.edit loc change) (Run.edit loc change) := by
  intro m hm
  cases hc : change m.host with
  | ok host =>
    rw [edit_ok loc change hc, edit_ok loc change (m := m.pruned p) hc]
    exact .ok (m := m.edited host) rfl ⟨hm.functions, hm.mixins⟩
  | error e =>
    rw [edit_error loc change hc, edit_error loc change (m := m.pruned p) hc]
    exact .error

/-- Both runs are equally deep, so they reach the limit of calls together. -/
theorem withCall (limit : Nat) (loc : Coordinate) (hx : Pruned p Q x₁ x₂) :
    Pruned p Q (Run.withCall limit loc x₁) (Run.withCall limit loc x₂) := by
  intro m hm
  by_cases hd : m.callDepth < limit
  · have hends : PrunedEnds p Q (x₁ m.deeper) (x₂ (m.pruned p).deeper) :=
      hx m.deeper ⟨hm.functions, hm.mixins⟩
    rw [withCall_of_lt loc x₁ hd, withCall_of_lt loc x₂ (m := m.pruned p) hd]
    generalize x₁ m.deeper = r₁, x₂ (m.pruned p).deeper = r₂ at hends
    cases hends with
    | ok hQ hm' => exact .ok (m := Machine.shallower _) hQ ⟨hm'.functions, hm'.mixins⟩
    | error => exact .error (m := Machine.shallower _)
  · have hlimit := Nat.not_lt.mp hd
    have hstop₁ : Run.withCall limit loc x₁ m = Run.fail loc (.callLimit limit) m := if_pos hlimit
    have hstop₂ : Run.withCall limit loc x₂ (m.pruned p) =
        Run.fail loc (.callLimit limit) (m.pruned p) := if_pos hlimit
    rw [hstop₁, hstop₂]
    exact .error

end Pruned

end Run

/-- Runs are compared with pruned ones. The code of functions and closures is the same in both. -/
def Provision.pruning {p : Provision} (hp : p.registry.FromDrafts) : Comparison where
  left := p
  right := p.prune
  functional := Level.function.Admits
  envs := Eq
  fresh := Eq
  budgets := Eq
  Alike := Run.Pruned p
  fields := congrArg Settings.fields p.settings_prune.symm
  function?_eq _ := rfl
  functional_function? hf := hp.functional_function hf
  envs_of_fresh h := h
  globalScope h := congrArg Environment.globalScope h
  budgets_start := rfl
  budgets_succ {n₁ _} h := ⟨n₁, h.symm, rfl⟩
  spent loc := fun hn hx => hx hn.symm ▸ Run.Pruned.fail loc _
  pure := Run.Pruned.pure
  bind := Run.Pruned.bind
  fail := Run.Pruned.fail
  get h := Run.Pruned.get fun m hm => h m (m.pruned p) rfl rfl hm.functions
  inward _ _ _ henv hk := fun m hm => henv ▸ hk _ m hm
  outward _ _ _ henv hk := fun m hm => henv ▸ hk _ m hm
  declared _ _ henv hk := fun m hm => henv ▸ hk _ m hm
  child henv := henv ▸ Run.Pruned.child _
  declare henv _ _ := henv ▸ Run.Pruned.modify (fun _ => rfl) fun hm => ⟨hm.functions, hm.mixins⟩
  edit := Run.Pruned.edit

/-! ## Statements -/

/-- Statements of a level may be run inside a block, or outside of all blocks. -/
def Level.Fits (inside : Bool) : Level → Prop
  | top => inside = false
  | block => inside = true
  | function => True

/-- A routine is entered alike where its level fits, in the right run without the blocks that may
not run. -/
def Enter.Prunes {p : Provision} (hp : p.registry.FromDrafts) (enter₁ enter₂ : Enter) : Prop :=
  ∀ (callee : String) {l : Level} {r : Routine} {args₁ args₂ : List Argument}
    (frame : Environment) (ctx : Context) (loc : Coordinate),
    r.Placed l → l.Fits ctx.selected → (Provision.pruning hp).Arguments args₁ args₂ →
    (Provision.pruning hp).Same (enter₁ callee r args₁ frame ctx loc)
      (enter₂ callee (r.prune p ctx.selected) args₂ frame ctx loc)

namespace Enter.Prunes

open Comparison

variable {p : Provision} {hp : p.registry.FromDrafts} {enter₁ enter₂ : Enter}

/-- Functions and closures are entered as they are. -/
theorem enters (he : Prunes hp enter₁ enter₂) : (Provision.pruning hp).Enters enter₁ enter₂ := by
  intro callee routine args₁ args₂ frame₁ frame₂ ctx loc hfunctional hargs hframe
  have henter := he callee frame₁ ctx loc (Routine.placed_of_every hfunctional) trivial hargs
  rw [Routine.prune_of_functional p ctx.selected hfunctional] at henter
  rw [← (show frame₁ = frame₂ from hframe)]
  exact henter

/-- A block that may run has the same matches in both runs. -/
theorem select {attributes : List Attribute} {ctx : Context}
    (hexcluded : p.excludes ctx.selected attributes = false) (loc : Coordinate)
    (selector : Selector) {body₁ body₂ : Context → Run Unit}
    (hbody : ∀ inner : Context, inner.selected = true →
      (Provision.pruning hp).Same (body₁ inner) (body₂ inner)) :
    (Provision.pruning hp).Same (Run.select p ctx loc attributes selector body₁)
      (Run.select p.prune ctx loc attributes selector body₂) := by
  have hwanted : Run.isWanted p attributes ctx.selected = true := by
    rw [Run.isWanted_eq_not_excludes, hexcluded]
    rfl
  have hwanted₂ := (Run.isWanted_prune p attributes ctx.selected).trans hwanted
  intro m hm
  rw [Run.select_wanted ctx loc selector body₁ hwanted,
    Run.select_wanted ctx loc selector body₂ hwanted₂]
  rcases hr : selector.resolve p ctx.element m.host with ⟨result, host⟩
  have hr₂ : selector.resolve p.prune ctx.element (m.pruned p).host = (result, host) := hr
  rw [hr₂]
  cases result with
  | error e => exact .error
  | ok ids =>
    exact forMatches (C := Provision.pruning hp) loc ctx ids hbody (m.ran.yielded host ids)
      ⟨hm.functions, hm.mixins⟩

/-- A block that may not run is skipped, and that is all. -/
theorem skip {s : Statement} {ctx : Context} (hexcluded : s.isExcluded p ctx.selected = true)
    (env : Environment) (m : Machine) :
    Run.runStatement p enter₁ env ctx s m = .ok .next m.skipped := by
  cases s with
  | selection loc attributes selector body =>
    have hunwanted : ¬ Run.isWanted p attributes ctx.selected = true := by
      rw [Run.isWanted_eq_not_excludes,
        show p.excludes ctx.selected attributes = true from hexcluded]
      nofun
    exact Run.bind_ok (Run.select_unwanted ctx loc selector _ hunwanted m)
  | _ => cases hexcluded

mutual

/-- **Statements.** A statement that is not skipped is run as the pruned one is, if it stands where
it may. The induction is on the statement; whether it is inside a block is said by the context,
which changes with a selection and with nothing else. -/
theorem runStatement (he : Prunes hp enter₁ enter₂) : ∀ (s : Statement) {env₁ env₂ : Environment},
    env₁ = env₂ → ∀ (ctx : Context) {l : Level}, s.Placed l → l.Fits ctx.selected →
    s.isExcluded p ctx.selected = false →
    (Provision.pruning hp).Same (Run.runStatement p enter₁ env₁ ctx s)
      (Run.runStatement p.prune enter₂ env₂ ctx (s.prune p ctx.selected))
  | .declare _ _ _, _, _, henv, ctx, _, h, _, _ | .ret _ _, _, _, henv, ctx, _, h, _, _
  | .set _ _, _, _, henv, ctx, _, h, _, _ | .merge _ _, _, _, henv, ctx, _, h, _, _
  | .field _ _ _ _, _, _, henv, ctx, _, h, _, _ | .expression _ _, _, _, henv, ctx, _, h, _, _ =>
    runPlain he.enters henv ctx _ h.2
  | .delete _, _, _, henv, ctx, _, _, _, _ | .error _ _, _, _, henv, ctx, _, _, _, _ =>
    runPlain he.enters henv ctx _ trivial
  | .conditional _ branches, _, _, henv, ctx, _, h, hfits, _ =>
    runBranches he branches henv ctx h.2 hfits
  | .forRange loc name _ _ end_ body, _, _, henv, ctx, _, h, hfits, _ =>
    runForRange he.enters henv ctx (fun hscope => runBlock he body hscope ctx h.2.2.2 hfits)
      loc name end_ h.2.1 h.2.2.1
  | .forEach loc key name _ body, _, _, henv, ctx, _, h, hfits, _ =>
    runForEach he.enters henv ctx (fun hscope => runBlock he body hscope ctx h.2.2 hfits)
      loc key name h.2.1
  | .whileTrue loc _ body, _, _, henv, ctx, _, h, hfits, _ =>
    runWhileTrue he.enters henv ctx (fun hscope => runBlock he body hscope ctx h.2.2 hfits)
      loc h.2.1
  | .includeMixin loc name args, _, _, henv, ctx, l, h, hfits, _ => by
    -- Inclusions are of blocks.
    have hselected : ctx.selected = true := by
      cases l with
      | block => exact hfits
      | top | function => cases h.1
    refine Run.Pruned.get fun m hm => ?_
    rw [Machine.mixin?_pruned]
    cases hf : (Table.get? m.mixins name).or (p.registry.mixin? name) with
    | none => exact Run.Pruned.fail _ _
    | some mixin =>
      have hplaced := hm.mixin hp hf
      have hargs := evaluateArgs he.enters henv ctx args h.2
      refine (Provision.pruning hp).bind hargs fun args₁ args₂ hargs => bindSame
        (includeMixin henv rfl fun {frame₁ frame₂} hframe => ?_) fun _ => same _
      have henter := he name frame₁ ctx loc hplaced hselected hargs
      rw [hselected] at henter
      rw [← (show frame₁ = frame₂ from hframe)]
      exact henter
  | .selection loc attributes selector body, _, _, henv, ctx, _, h, _, hexcluded =>
    bindSame (select hexcluded loc selector fun inner hinner =>
      visitBody henv fun hscope => by
        have hblock := runBlock he body hscope inner h.2 hinner
        rw [hinner] at hblock
        exact hblock) fun _ => same _
  | .importLibrary loc name, env₁, env₂, henv, ctx, l, h, hfits, _ => by
    -- Imports are of documents.
    have hselected : ctx.selected = false := by
      cases l with
      | top => exact hfits
      | block | function => cases h
    simp only [Run.runStatement, Statement.prune, Provision.library?_prune]
    cases hl : p.registry.library? name with
    | none => exact Run.Pruned.fail _ _
    | some library =>
      have henter := he name env₁.globalScope ctx loc (l := .top)
        (r := ⟨[], library.statements⟩) ⟨trivial, hp.placed_library hl⟩ hselected .nil
      rw [hselected] at henter
      rw [← (show env₁ = env₂ from henv)]
      exact bindSame henter fun _ => same _
  | .stage _ _ _, _, _, _, _, _, _, _, _ =>
    bindSame (Run.Pruned.modify (fun _ => rfl) fun hm => ⟨hm.functions, hm.mixins⟩) fun _ => same _
  | .function loc none _ _, _, _, _, _, _, _, _, _ => Run.Pruned.fail loc .namelessFunction
  | .function _ (some _) _ _, _, _, _, _, _, h, _, _ =>
    bindSame (Run.Pruned.modify (fun _ => rfl) fun hm =>
      ⟨Table.of_get?_insert (Routine.Placed.every ⟨h.2.1, h.2.2⟩) hm.functions, hm.mixins⟩)
      fun _ => same _
  | .mixin _ name params body, _, _, _, _, _, h, _, _ =>
    bindSame (Run.Pruned.modify (Machine.insert_pruned name ⟨params, body⟩) fun hm =>
      ⟨hm.functions, Table.of_get?_insert ⟨h.2.1, h.2.2⟩ hm.mixins⟩) fun _ => same _

/-- A block that is skipped in the left run is missing in the right one. The others are run
alike. -/
theorem runBlock (he : Prunes hp enter₁ enter₂) : ∀ (body : List Statement)
    {env₁ env₂ : Environment}, env₁ = env₂ → ∀ (ctx : Context) {l : Level},
    Statement.PlacedIn l body → l.Fits ctx.selected →
    (Provision.pruning hp).Same (Run.runBlock p enter₁ env₁ ctx body)
      (Run.runBlock p.prune enter₂ env₂ ctx (Statement.pruneIn p ctx.selected body))
  | [], _, _, _, _, _, _, _ => same _
  | s :: rest, env₁, _, henv, ctx, _, h, hfits => by
    have hrest := runBlock he rest henv ctx h.2 hfits
    rw [Statement.pruneIn]
    cases hs : s.isExcluded p ctx.selected with
    | true =>
      -- The left run goes on as it would from the same machine.
      intro m hm
      rw [Run.runBlock, Run.bind_ok (skip hs env₁ m)]
      exact hrest m.skipped ⟨hm.functions, hm.mixins⟩
    | false => exact runCons (runStatement he s henv ctx h.1 hfits hs) hrest

theorem runBranches (he : Prunes hp enter₁ enter₂) : ∀ (branches : Branches)
    {env₁ env₂ : Environment}, env₁ = env₂ → ∀ (ctx : Context) {l : Level},
    branches.Placed l → l.Fits ctx.selected →
    (Provision.pruning hp).Same (Run.runBranches p enter₁ env₁ ctx branches)
      (Run.runBranches p.prune enter₂ env₂ ctx (branches.prune p ctx.selected))
  | .nothing, _, _, _, _, _, _, _ => same _
  | .otherwise body, _, _, henv, ctx, _, h, hfits =>
    inChild henv fun hscope => runBlock he body hscope ctx h hfits
  | .when loc _ body rest, _, _, henv, ctx, _, h, hfits =>
    runWhen he.enters henv ctx (fun hscope => runBlock he body hscope ctx h.2.1 hfits) loc h.1
      (runBranches he rest henv ctx h.2.2 hfits)

end

end Enter.Prunes

/-- **Pruned runs.** However deep calls may still nest, routines are entered alike. -/
theorem Run.enterWithin_prunes {p : Provision} (hp : p.registry.FromDrafts) :
    ∀ levels : Nat, Enter.Prunes hp (enterWithin p levels) (enterWithin p.prune levels)
  | 0 => fun _ _ _ _ _ _ _ _ _ _ _ => fun _ _ => .error
  | levels + 1 => by
    intro callee l r args₁ args₂ frame ctx loc hplaced hfits hargs
    have he := enterWithin_prunes hp levels
    exact Pruned.withCall _ loc (Comparison.bindSame
      (Comparison.bindArguments he.enters rfl ctx callee hplaced.params (hargs.fillAll_eq callee)
        loc)
      fun _ => he.runBlock r.body rfl ctx hplaced.body hfits)

/-! ## Executions -/

/-- What is left of two runs that end so: the same answer and host, and a report without the blocks
that were skipped. -/
theorem Run.PrunedEnds.outcome {p : Provision} {Q : Flow → Flow → Prop}
    {r₁ r₂ : EStateM.Result Halt Machine Flow} (h : PrunedEnds p Q r₁ r₂) :
    Patch.outcome r₂ = ((Patch.outcome r₁).1.map Report.unskipped, (Patch.outcome r₁).2) := by
  cases h with
  | ok | error => rfl

namespace Patch

/-- **Skipped blocks leave no trace.** Without the blocks that may not run, in the document as in
the mixins and libraries, an execution halts in the same way or ends as well, leaves the same tree,
and has the same report, but for the blocks that were skipped. -/
theorem execute_prune (d : Draft) {p : Provision} (hp : p.registry.FromDrafts) (h : Host) :
    ((ofDraft d).prune p).execute p.prune h =
      (((ofDraft d).execute p h).1.map Report.unskipped, ((ofDraft d).execute p h).2) := by
  have henter := Run.enterWithin_prunes hp (p.settings.limits.maxCallDepth + 1)
  have hdocument := Draft.placedIn_readTop d.statements
  -- In the beginning nothing is defined, and documents are outside of all blocks.
  have hends := henter.runBlock (ofDraft d).statements (rfl : (Machine.start h).1 = _)
    ⟨Host.root, false, [Host.root]⟩ hdocument rfl (Machine.start h).2 ⟨nofun, nofun⟩
  rw [execute_eq_outcome, execute_eq_outcome]
  exact hends.outcome

end Patch

/-- A registry with one library, two blocks of two stages, and the mixin that the second includes,
with a block for a mod that is not active and one for any. -/
def Registry.staged : Registry :=
  let set : Draft.BlockStatement := .set .origin (.boolean .origin true)
  let mixin : List Draft.BlockStatement :=
    [.selection .origin [.requireMod .origin "gone"] (.ofType .origin "b") [.delete .origin],
      .selection .origin [] (.ofType .origin "b") [set]]
  let library : Draft := ⟨.origin,
    [.selection .origin [.runAtStage .origin "early"] (.ofType .origin "a") [set],
      .selection .origin [.runAtStage .origin "late"] (.ofType .origin "a")
        [.includeMixin .origin "mark" []]]⟩
  ⟨[], [], [("mark", ⟨[], Draft.readBlock mixin⟩)], [("shared", Patch.ofDraft library)], []⟩

theorem Registry.fromDrafts_staged : Registry.staged.FromDrafts where
  functions hf := by cases hf
  mixins {name f} hf := by
    simp only [Registry.mixin?, Registry.staged, Table.get?] at hf
    split at hf
    · exact ⟨[], _, (Option.some.inj hf).symm⟩
    · cases hf
  libraries {name q} hq := by
    simp only [Registry.library?, Registry.staged, Table.get?] at hq
    split at hq
    · exact ⟨_, (Option.some.inj hq).symm⟩
    · cases hq

/-- The library is run for the late stage. Of its blocks and those of the mixin two are run and two
are skipped, and without the latter none is skipped. -/
theorem Patch.execute_prune_staged :
    let p : Provision := ⟨.staged, { Settings.standard with stage := some "late" }⟩
    let d : Draft := ⟨.origin, [.importLibrary .origin "shared"]⟩
    let h := Host.ofDescription []
      (.mk "doc" none [] .null [.mk "a" none [] .null [.mk "b" none [] .null [] false] false] false)
    ((ofDraft d).execute p h).1 = .ok ⟨[], 2, 2, [2, 1], 1⟩ ∧
      (((ofDraft d).prune p).execute p.prune h).1 = .ok ⟨[], 2, 0, [2, 1], 1⟩ := by
  intro p d h
  have hok : ((ofDraft d).execute p h).1 = .ok ⟨[], 2, 2, [2, 1], 1⟩ := by decide +kernel
  refine ⟨hok, ?_⟩
  rw [execute_prune d Registry.fromDrafts_staged h, hok]
  rfl

end Graft
