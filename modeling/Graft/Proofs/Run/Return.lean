import Mathlib.Data.List.Basic
import Graft.Proofs.Run.Flow
import Graft.Proofs.Run.Halting
import Graft.Proofs.Run.Purity

/-!
Where returns go.

A return statement ends what it stands in: the statements before and behind it, the branches
and the loops around them, and the routine whose body they are. In patches that were read
from drafts, that routine is a function or a closure, because documents, selections and
mixins hold no returns of their own. So a return ends the innermost call that is under way,
and its value is the answer of that call.
-/

set_option autoImplicit false

namespace Graft

/-! ## What a return passes through -/

namespace Part

/-- Parts of a body: statements, and what runs statements as they stand there. -/
def isBody : Part → Bool
  | statement _ _ _ => true
  | block _ _ _ => true
  | branches _ _ _ => true
  | range _ _ _ _ _ _ _ _ => true
  | each _ _ _ _ _ _ _ _ => true
  | again _ _ _ _ _ _ => true
  | _ => false

/-- A call of a function or a closure. -/
def isCall : Part → Bool
  | call _ _ _ _ _ _ => true
  | closure _ _ _ _ => true
  | _ => false

/-- Whether there is a return among the statements that a part runs as they stand there. -/
def mayReturn : Part → Bool
  | routine _ r _ _ _ _ => Statement.mayReturnIn r.body
  | statement _ _ s => s.mayReturn
  | block _ _ body => Statement.mayReturnIn body
  | branches _ _ bs => bs.mayReturn
  | range _ _ _ _ body _ _ _ => Statement.mayReturnIn body
  | each _ _ _ _ _ body _ _ => Statement.mayReturnIn body
  | again _ _ _ _ body _ => Statement.mayReturnIn body
  | visits _ _ _ body _ => Statement.mayReturnIn body
  | _ => false

/-- A routine or a part of a body ends in this way and leaves this machine. -/
def EndsIn (p : Provision) (enter : Enter) (m : Machine) (flow : Flow) (m' : Machine) : Part → Prop
  | routine callee r given frame ctx loc => enter callee r given frame ctx loc m = .ok flow m'
  | statement env ctx s => Run.runStatement p enter env ctx s m = .ok flow m'
  | block env ctx body => Run.runBlock p enter env ctx body m = .ok flow m'
  | branches env ctx bs => Run.runBranches p enter env ctx bs m = .ok flow m'
  | range env ctx loc name body first count budget =>
    Run.forRange loc p.settings.limits.maxLoopIterations (Run.rangeBody p enter env ctx name body)
      first count budget m = .ok flow m'
  | each env ctx loc key name body es budget =>
    Run.forEach loc p.settings.limits.maxLoopIterations (Run.eachBody p enter env ctx key name body)
      es budget m = .ok flow m'
  | again env ctx loc condition body budget =>
    Run.whileTrue loc p.settings.limits.maxLoopIterations (Run.evaluate p enter env ctx condition)
      (Run.runBlock p enter env ctx body) budget m = .ok flow m'
  | _ => False

/-- A call of a function or a closure has this value and leaves this machine. -/
def Gives (p : Provision) (enter : Enter) (m : Machine) (v : Value) (m' : Machine) : Part → Prop
  | .call env ctx loc name receiver given =>
    Run.call p enter env ctx loc name receiver given m = .ok v m'
  | closure ctx loc c values => Run.callClosure enter ctx loc c values m = .ok v m'
  | _ => False

/-- The machine that a part leaves where what it runs has left this one: a call ends with its
routine. -/
def leave : Part → Machine → Machine
  | routine _ _ _ _ _ _, m => m.shallower
  | _, m => m

theorem not_isRoutine_of_isBody {part : Part} (h : part.isBody = true) :
    ¬ part.isRoutine = true := by
  cases part with
  | routine => cases h
  | _ => nofun

theorem leave_of_isBody {part : Part} (h : part.isBody = true) (m : Machine) :
    part.leave m = m := by
  cases part with
  | routine => cases h
  | _ => rfl

theorem leave_of_isRoutine {part : Part} (h : part.isRoutine = true) (m : Machine) :
    part.leave m = m.shallower := by
  cases part with
  | routine => rfl
  | _ => cases h

end Part

namespace Moment

open Run

variable {p : Provision} {κ ρ μ ν σ : Moment} {flow : Flow} {v : Value} {m' : Machine}

/-- What is run at the moment ends in this way and leaves this machine. -/
def EndsIn (p : Provision) (μ : Moment) (flow : Flow) (m' : Machine) : Prop :=
  μ.part.EndsIn p (enterWithin p μ.levels) μ.machine flow m'

/-- The call at the moment has this value and leaves this machine. -/
def Gives (p : Provision) (μ : Moment) (v : Value) (m' : Machine) : Prop :=
  μ.part.Gives p (enterWithin p μ.levels) μ.machine v m'

/-- A routine runs its body, or a part of a body runs another part of that body. -/
structure Passes (p : Provision) (μ ν : Moment) : Prop where
  next : Next p μ ν
  outer : μ.part.isBody = true ∨ μ.part.isRoutine = true
  inner : ν.part.isBody = true

/-- **A return is passed on.** What runs a part that returns returns the same value. -/
theorem Passes.returned (h : Passes p μ ν) (hν : ν.EndsIn p (.returned v) m') :
    μ.EndsIn p (.returned v) (μ.part.leave m') := by
  obtain ⟨hnext, houter, hinner⟩ := h
  cases hnext with
  | @body l callee r args frame ctx loc m m₁ hd hx =>
    have hbody :=
      (bind_ok (f := fun _ => runBlock p (enterWithin p l) frame ctx r.body) hx).trans hν
    show enterWithin p (l + 1) callee r args frame ctx loc m = _
    rw [enterWithin, withCall_of_lt loc _ hd, hbody]
    rfl
  -- Statements.
  | conditional | again => exact hν
  | range hx hy =>
    exact (bind_ok hx).trans ((bind_ok rfl).trans ((bind_ok hy).trans ((bind_ok rfl).trans hν)))
  | @each l env ctx loc key name e body m w m₁ entries hx hentries =>
    refine (bind_ok hx).trans ?_
    rw [hentries]
    exact hν
  | firstStatement => exact bind_ok hν
  | otherStatements hx => exact (bind_ok hx).trans hν
  -- Branches.
  | otherwise hscope => exact (bind_ok hscope).trans hν
  | passed hx hscope => exact (bind_ok hx).trans ((bind_ok hscope).trans hν)
  | otherBranches hx => exact (bind_ok hx).trans hν
  -- Loops: the body returns, or a later round does.
  | @rangeBody l env ctx loc name body first count budget m scope m₁ hscope =>
    have hround : Run.rangeBody p (enterWithin p l) env ctx name body (Int64.ofInt first) m =
        .ok (.returned v) m' := (bind_ok hscope).trans ((bind_ok rfl).trans hν)
    exact bind_ok hround
  | otherNumbers hx => exact (bind_ok hx).trans hν
  | @eachBody l env ctx loc key name body k w rest budget m scope m₁ hscope =>
    have hround : Run.eachBody p (enterWithin p l) env ctx key name body k w m =
        .ok (.returned v) m' := by
      rw [eachBody_eq]
      exact (bind_ok hscope).trans hν
    exact bind_ok hround
  | otherEach hx => exact (bind_ok hx).trans hν
  | againBody hx ht =>
    refine (bind_ok hx).trans ?_
    rw [if_pos ht]
    exact bind_ok hν
  | againAgain hx ht hy =>
    refine (bind_ok hx).trans ?_
    rw [if_pos ht]
    exact (bind_ok hy).trans hν
  -- The statements that a selection runs are not its own.
  | visit => exact houter.elim nofun nofun
  | _ => cases hinner

/-! ## The innermost call -/

/-- A call of a function or a closure, its routine, and the routine or a part of its body, with no
other routine in between. -/
structure Innermost (p : Provision) (κ ρ μ : Moment) : Prop where
  call : κ.part.isCall = true
  next : Next p κ ρ
  routine : ρ.part.isRoutine = true
  inside : Relation.ReflTransGen (Passes p) ρ μ

/-- A call has the value that its routine returns. -/
theorem Next.gives (h : Next p κ ρ) (hκ : κ.part.isCall = true) (hρ : ρ.part.isRoutine = true)
    (hend : ρ.EndsIn p flow m') : κ.Gives p flow.value m' := by
  cases h with
  | routine hf hframe => exact (call_function hf).trans ((bind_ok hframe).trans (bind_ok hend))
  | closure hframe => exact (bind_ok hframe).trans (bind_ok hend)
  | items | firstItem | otherItems => cases hρ
  | _ => cases hκ

namespace Innermost

theorem passes (h : Innermost p κ ρ μ) (hstep : Passes p μ ν) : Innermost p κ ρ ν :=
  { h with inside := h.inside.tail hstep }

/-- What is inside a call is its routine or a part of the body. -/
theorem isBody_or_eq (h : Innermost p κ ρ μ) : μ.part.isBody = true ∨ μ = ρ := by
  cases h.inside with
  | refl => exact .inr rfl
  | tail _ hstep => exact .inl hstep.inner

/-- **Returns end the innermost call.** What returns inside a call has its routine return the same
value, one call less deep, and that is the value of the call. -/
theorem returned (h : Innermost p κ ρ μ) (hbody : μ.part.isBody = true)
    (hμ : μ.EndsIn p (.returned v) m') :
    ρ.EndsIn p (.returned v) m'.shallower ∧ κ.Gives p v m'.shallower := by
  suffices hρ : ρ.EndsIn p (.returned v) m'.shallower from
    ⟨hρ, h.next.gives h.call h.routine hρ⟩
  -- Outward from the return: every part passes it on, up to the routine.
  obtain ⟨hcall, hnext, hroutine, hinside⟩ := h
  induction hinside with
  | refl => exact absurd hroutine (Part.not_isRoutine_of_isBody hbody)
  | @tail μ ν hinside hstep ih =>
    have hend := hstep.returned hμ
    rcases Innermost.isBody_or_eq ⟨hcall, hnext, hroutine, hinside⟩ with hbody | rfl
    · rw [Part.leave_of_isBody hbody] at hend
      exact ih hbody hend
    · rwa [Part.leave_of_isRoutine hroutine] at hend

end Innermost

end Moment

/-! ## Levels that hold no returns -/

/-- The body of a selection or a mixin never returns. -/
def Statement.Confines : Statement → Prop
  | .selection _ _ _ body => Statement.mayReturnIn body = false
  | .mixin _ _ _ body => Statement.mayReturnIn body = false
  | _ => True

theorem Statement.confines_of_isFunctionLevel (s : Statement) (h : s.isFunctionLevel = true) :
    s.Confines := by
  cases s with
  | selection | mixin => cases h
  | _ => exact trivial

theorem Draft.BlockStatement.confines_read (s : Draft.BlockStatement) : s.read.Confines := by
  cases s with
  | selection loc attributes selector body => exact Draft.mayReturnIn_readBlock body
  | _ => exact trivial

theorem Draft.TopStatement.confines_read (s : Draft.TopStatement) : s.read.Confines := by
  cases s with
  | selection loc attributes selector body => exact Draft.mayReturnIn_readBlock body
  | mixin loc name params body =>
    rw [Draft.TopStatement.read]
    cases defaultsTrail (Draft.readParams params) with
    | true => exact Draft.mayReturnIn_readBlock body
    | false => exact trivial
  | function loc name params body =>
    rw [Draft.TopStatement.read]
    cases defaultsTrail (Draft.readParams params) <;> exact trivial
  | stage loc name priority =>
    rw [Draft.TopStatement.read]
    cases wordOf? priority <;> exact trivial
  | _ => exact trivial

theorem Patch.confines_ofDraft (d : Draft) :
    Statement.EveryIn Statement.Confines (Patch.ofDraft d).statements :=
  Draft.everyIn_readTop Statement.confines_of_isFunctionLevel Draft.BlockStatement.confines_read
    Draft.TopStatement.confines_read d.statements

theorem Registry.FromDrafts.confines {r : Registry} (hr : r.FromDrafts) :
    r.Every Statement.Confines :=
  hr.every Statement.confines_of_isFunctionLevel Draft.BlockStatement.confines_read
    Draft.TopStatement.confines_read

/-- The mixins that a machine knows never return. -/
def Machine.MixinsGoOn (m : Machine) : Prop :=
  ∀ (name : String) (f : Routine), Table.get? m.mixins name = some f →
    Statement.mayReturnIn f.body = false

theorem Machine.MixinsGoOn.change {t : Terms} (ht : t.statements = Statement.Confines)
    {m m' : Machine} (h : Change t m m') (hm : m.MixinsGoOn) : m'.MixinsGoOn := by
  cases h with
  | @mixin loc entered params body hs =>
    rw [ht] at hs
    exact fun _ _ hf => Table.of_get?_insert (x := ⟨params, body⟩)
      (Q := fun f : Routine => Statement.mayReturnIn f.body = false) hs.1 (hm _ _) hf
  | opened | bound | function | stage | skipped | ran | failed | yielded | edited => exact hm

/-! ## Executions -/

namespace Moment

section

variable {p : Provision} (hp : p.registry.FromDrafts) {d : Draft} {h : Host} {μ : Moment}

include hp

/-- At every moment, the mixin of a name never returns. -/
theorem Reaches.mayReturnIn_mixin (hμ : Reaches p (start p (Patch.ofDraft d) h) μ) {name : String}
    {f : Routine} (hf : (Table.get? μ.machine.mixins name).or (p.registry.mixin? name) = some f) :
    Statement.mayReturnIn f.body = false := by
  have hmixins := (Moment.Reaches.invariant (J := Machine.MixinsGoOn) hp.confines
    (Patch.confines_ofDraft d) (fun hc hm => hm.change rfl hc) (fun _ hm => hm)
    (fun _ _ hf => by cases hf) hμ).1
  rcases Option.or_eq_some_iff.mp hf with hown | ⟨_, hregistered⟩
  · exact hmixins _ _ hown
  · obtain ⟨params, body, rfl⟩ := hp.mixins hregistered
    exact Draft.mayReturnIn_readBlock body

/-- At every moment, the body of a selection never returns. -/
theorem Reaches.mayReturnIn_selection {l : Nat} {env : Environment} {ctx : Context}
    {loc : Coordinate} {attributes : List Attribute} {selector : Selector} {body : List Statement}
    {m : Machine} (hμ : Reaches p (start p (Patch.ofDraft d) h)
      ⟨l, .statement env ctx (.selection loc attributes selector body), m⟩) :
    Statement.mayReturnIn body = false := by
  obtain ⟨_, _, hsound⟩ := Reaches.sound (t := .whole p Statement.Confines hp.confines) hμ
    (sound_start hp.confines (Patch.confines_ofDraft d))
  exact hsound.part.1.1

/-- **Returns are inside calls.** Whatever may return at a moment of an execution is inside a call
of a function or a closure. -/
theorem Reaches.innermost (hμ : Reaches p (start p (Patch.ofDraft d) h) μ)
    (hreturn : μ.part.mayReturn = true) :
    ∃ κ ρ, Reaches p (start p (Patch.ofDraft d) h) κ ∧ Innermost p κ ρ μ := by
  induction hμ with
  | refl =>
    have hdocument := Draft.mayReturnIn_readTop d.statements
    cases hdocument.symm.trans hreturn
  | @tail ν μ hν hnext ih =>
    -- What is passed on by a part of the body of a routine is inside the same call.
    have inside : ν.part.mayReturn = true → ν.part.isBody = true ∨ ν.part.isRoutine = true →
        μ.part.isBody = true →
        ∃ κ ρ, Reaches p (start p (Patch.ofDraft d) h) κ ∧ Innermost p κ ρ μ := by
      intro hmay houter hinner
      obtain ⟨κ, ρ, hκ, hinnermost⟩ := ih hmay
      exact ⟨κ, ρ, hκ, hinnermost.passes ⟨hnext, houter, hinner⟩⟩
    -- And what runs the statements of a selection is inside no call.
    have visited : ν.part.mayReturn = true → ν.part.isBody = false → ν.part.isRoutine = false →
        False := by
      intro hmay hnot hnot'
      obtain ⟨κ, ρ, _, hinnermost⟩ := ih hmay
      rcases hinnermost.isBody_or_eq with hbody | rfl
      · cases hnot.symm.trans hbody
      · cases hnot'.symm.trans hinnermost.routine
    cases hnext with
    | routine hf hframe => exact ⟨_, _, hν, rfl, .routine hf hframe, rfl, .refl⟩
    | closure hframe => exact ⟨_, _, hν, rfl, .closure hframe, rfl, .refl⟩
    -- Mixins, libraries and the bodies of selections hold no returns.
    | mixin hf _ _ => cases (Reaches.mayReturnIn_mixin hp hν hf).symm.trans hreturn
    | library hl =>
      obtain ⟨library, rfl⟩ := hp.libraries hl
      cases (Draft.mayReturnIn_readTop library.statements).symm.trans hreturn
    | selection => cases (Reaches.mayReturnIn_selection hp hν).symm.trans hreturn
    | visit | otherVisits => exact (visited hreturn rfl rfl).elim
    | body => exact inside hreturn (.inr rfl) rfl
    | conditional | range | each | again | otherwise | rangeBody | otherNumbers | eachBody
    | otherEach | againBody | againAgain => exact inside hreturn (.inl rfl) rfl
    | firstStatement => exact inside (Bool.or_eq_true_iff.mpr (.inl hreturn)) (.inl rfl) rfl
    | otherStatements => exact inside (Bool.or_eq_true_iff.mpr (.inr hreturn)) (.inl rfl) rfl
    | passed => exact inside (Bool.or_eq_true_iff.mpr (.inl hreturn)) (.inl rfl) rfl
    | otherBranches => exact inside (Bool.or_eq_true_iff.mpr (.inr hreturn)) (.inl rfl) rfl
    | _ => cases hreturn

end

end Moment

/-- In the execution of a patch, nothing but functions and closures ends in a return, and a return
ends the innermost call of these. -/
structure Patch.ConfinesReturns (p : Provision) (patch : Patch) (h : Host) : Prop where
  document : ∀ (enter : Enter) (env : Environment) (ctx : Context),
    (Run.runBlock p enter env ctx patch.statements).GoesOn
  libraries : ∀ {name : String} {library : Patch}, p.registry.library? name = some library →
    ∀ (enter : Enter) (env : Environment) (ctx : Context),
      (Run.runBlock p enter env ctx library.statements).GoesOn
  selections : ∀ {l env ctx loc attributes selector body m},
    Moment.Reaches p (.start p patch h)
      ⟨l, .statement env ctx (.selection loc attributes selector body), m⟩ →
    ∀ (enter : Enter) (env : Environment) (ctx : Context),
      (Run.runBlock p enter env ctx body).GoesOn
  mixins : ∀ {l env ctx loc name args} {m : Machine} {mixin : Routine},
    Moment.Reaches p (.start p patch h) ⟨l, .statement env ctx (.includeMixin loc name args), m⟩ →
    (Table.get? m.mixins name).or (p.registry.mixin? name) = some mixin →
    ∀ (enter : Enter) (env : Environment) (ctx : Context),
      (Run.runBlock p enter env ctx mixin.body).GoesOn
  /-- A return statement that is reached and has a value is inside a call, which has this value. -/
  returns : ∀ {l env ctx loc e m flow m'},
    Moment.Reaches p (.start p patch h) ⟨l, .statement env ctx (.ret loc e), m⟩ →
    Moment.EndsIn p ⟨l, .statement env ctx (.ret loc e), m⟩ flow m' →
    ∃ v κ ρ, flow = .returned v ∧ Moment.Reaches p (.start p patch h) κ ∧
      Moment.Innermost p κ ρ ⟨l, .statement env ctx (.ret loc e), m⟩ ∧
      ρ.EndsIn p (.returned v) m'.shallower ∧ κ.Gives p v m'.shallower

/-- A return statement ends in a return. -/
theorem Run.Answers.ret (p : Provision) (enter : Enter) (env : Environment) (ctx : Context)
    (loc : Coordinate) (e : Option Expr) :
    (Run.runStatement p enter env ctx (.ret loc e)).Answers
      fun flow => ∃ v, flow = .returned v := by
  cases e with
  | none => exact .pure ⟨_, rfl⟩
  | some e => exact .behind fun v => .pure ⟨v, rfl⟩

/-- **Levels and returns.** In the patch of a draft, the statements stand where they may, at
whatever depth. So in its executions documents, libraries, selections and mixins go on, and every
return ends the innermost call of a function or a closure with its value. -/
theorem Patch.placed_and_confinesReturns (d : Draft) :
    Statement.PlacedIn .top (ofDraft d).statements ∧
    ∀ {p : Provision}, p.registry.FromDrafts → ∀ h : Host, (ofDraft d).ConfinesReturns p h := by
  refine ⟨Draft.placedIn_readTop d.statements, fun {p} hp h => ?_⟩
  constructor
  case document =>
    exact fun enter env ctx => .runBlock env ctx _ (Draft.mayReturnIn_readTop d.statements)
  case libraries =>
    intro name library hlookup enter env ctx
    obtain ⟨q, rfl⟩ := hp.libraries hlookup
    exact .runBlock env ctx _ (Draft.mayReturnIn_readTop q.statements)
  case selections =>
    exact fun hμ enter env ctx => .runBlock env ctx _ (Moment.Reaches.mayReturnIn_selection hp hμ)
  case mixins =>
    exact fun hμ hlookup enter env ctx =>
      .runBlock env ctx _ (Moment.Reaches.mayReturnIn_mixin hp hμ hlookup)
  case returns =>
    intro l env ctx loc e m flow m' hμ hend
    obtain ⟨v, rfl⟩ := Run.Answers.ret p _ env ctx loc e m flow m' hend
    obtain ⟨κ, ρ, hκ, hinnermost⟩ := Moment.Reaches.innermost hp hμ rfl
    exact ⟨v, κ, ρ, rfl, hκ, hinnermost, hinnermost.returned rfl hend⟩

/-- A document with a function that returns from a branch in a loop. Called with a list, it returns
the first item that `keep` says yes to, so that the stage is defined. -/
theorem Patch.placed_and_confinesReturns_first :
    let p : Provision := ⟨.keeping, .standard⟩
    let keep : Draft.Expr := .call .origin "keep" [.mk .origin none (.variable .origin "$x")]
    let first : Draft.TopStatement := .function .origin "first" [.mk .origin "$xs" none]
      [.forEach .origin none "$x" (.variable .origin "$xs")
        [.conditional .origin keep [.ret .origin (some (.variable .origin "$x"))] [] none]]
    let items : Draft.Expr := .list .origin
      [.boolean .origin false, .boolean .origin true, .boolean .origin false]
    let d : Draft := ⟨.origin, [first, .conditional .origin
      (.call .origin "first" [.mk .origin none items]) [.stage .origin "found" "1"] [] none]⟩
    let h := Host.ofDescription [] (.mk "doc" none [] .null [] false)
    ((ofDraft d).execute p h).1 = .ok ⟨[("found", 1)], 0, 0, [], 0⟩ ∧
      Statement.PlacedIn .top (ofDraft d).statements ∧ (ofDraft d).ConfinesReturns p h := by
  intro p keep first items d h
  have hconfined := placed_and_confinesReturns d
  exact ⟨by decide +kernel, hconfined.1, hconfined.2 Registry.fromDrafts_keeping h⟩

end Graft
