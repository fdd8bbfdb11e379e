import Graft.Proofs.Run.Purity

/-!
Scopes do not leak.

A block of statements binds names in one frame that was there before, which is the innermost
frame of its environment. Whatever its branches, loops, selections and calls declare goes into
frames that are opened for them, and is gone for the statements that follow. This holds however
the block ends.

In its own frame a block binds the names of its declarations, and there are two kinds of
statements that add to them: the body of a `while` loop has no frame of its own, and an inclusion
hands over what the mixin has declared. Every other name means what it meant before.

Imports are left out. A library is run in the global frame, wherever the import stands.
-/

set_option autoImplicit false

namespace Graft

/-! ## Statements and what they bind -/

/-- The kind of statement that runs a library in the global frame. -/
def Statement.isImport : Statement → Bool
  | .importLibrary _ _ => true
  | _ => false

/-- What a statement defines as a function or as a mixin holds no imports. -/
def Statement.DefinesImportFree : Statement → Prop
  | .function _ _ params body => (Routine.mk params body).Every fun s => s.isImport = false
  | .mixin _ _ params body => (Routine.mk params body).Every fun s => s.isImport = false
  | _ => True

mutual

/-- Whether a statement may bind a name in the block in which it stands. -/
def Statement.rebinds (x : String) : Statement → Bool
  | .declare _ name _ => name == x
  | .whileTrue _ _ body => Statement.anyRebinds x body
  | .includeMixin _ _ _ => true
  | _ => false

/-- Whether one of several statements may bind a name in the block in which they stand. -/
def Statement.anyRebinds (x : String) : List Statement → Bool
  | [] => false
  | s :: rest => s.rebinds x || Statement.anyRebinds x rest

end

theorem Statement.isImport_of_isFunctionLevel {s : Statement} (h : s.isFunctionLevel = true) :
    s.isImport = false := by
  cases s with
  | importLibrary => cases h
  | _ => rfl

/-- A statement of a block is no import. -/
theorem Draft.BlockStatement.isImport_read (s : Draft.BlockStatement) :
    s.read.isImport = false := by
  cases s <;> rfl

theorem Draft.routine_importFree_readFunction (params : List Draft.Param)
    (body : List Draft.FunctionStatement) :
    (Routine.mk (readParams params) (readFunctionBody body)).Every fun s => s.isImport = false :=
  routine_every_readFunction (fun _ h => Statement.isImport_of_isFunctionLevel h) params body

theorem Draft.routine_importFree_readMixin (params : List Draft.Param)
    (body : List Draft.BlockStatement) :
    (Routine.mk (readParams params) (readBlock body)).Every fun s => s.isImport = false :=
  routine_every_readMixin (fun _ h => Statement.isImport_of_isFunctionLevel h)
    Draft.BlockStatement.isImport_read params body

theorem Statement.definesImportFree_iff (s : Statement) :
    s.DefinesImportFree ↔ s.DefinesEvery fun s => s.isImport = false := by
  cases s <;> exact Iff.rfl

theorem Draft.BlockStatement.definesImportFree_read (s : Draft.BlockStatement) :
    s.read.DefinesImportFree :=
  (Statement.definesImportFree_iff _).mpr s.definesEvery_read

theorem Statement.definesImportFree_of_isFunctionLevel (s : Statement)
    (h : s.isFunctionLevel = true) : s.DefinesImportFree :=
  s.definesImportFree_iff.mpr (s.definesEvery_of_isFunctionLevel h)

/-- Only a document imports libraries, so what it defines holds no imports. -/
theorem Draft.TopStatement.definesImportFree_read (s : Draft.TopStatement) :
    s.read.DefinesImportFree :=
  (Statement.definesImportFree_iff _).mpr <|
    s.definesEvery_read (fun _ h => Statement.isImport_of_isFunctionLevel h)
      Draft.BlockStatement.isImport_read

/-! ## Machines whose routines hold no imports -/

/-- The functions and the mixins that a machine knows hold no imports. -/
structure Machine.ImportFree (m : Machine) : Prop where
  functions : ∀ {name : String} {f : Routine}, Table.get? m.functions name = some f →
    f.Every fun s => s.isImport = false
  mixins : ∀ {name : String} {f : Routine}, Table.get? m.mixins name = some f →
    f.Every fun s => s.isImport = false

theorem Machine.ImportFree.change {t : Terms} (ht : t.statements = Statement.DefinesImportFree)
    {m m' : Machine} (h : Change t m m') (hm : m.ImportFree) : m'.ImportFree := by
  obtain ⟨functions, mixins⟩ := hm
  cases h with
  | function hs =>
    rw [ht] at hs
    exact ⟨Table.of_get?_insert hs.1 functions, mixins⟩
  | mixin hs =>
    rw [ht] at hs
    exact ⟨functions, Table.of_get?_insert hs.1 mixins⟩
  | opened | bound | stage | skipped | ran | failed | yielded | edited =>
    exact ⟨functions, mixins⟩

/-- At whatever machine an execution arrives, the routines that have been defined hold no
imports. -/
theorem Reachable.importFree {p : Provision} (hp : p.registry.FromDrafts) {m : Machine}
    (hm : Reachable p m) : m.ImportFree := by
  have hregistry : p.registry.Every Statement.DefinesImportFree :=
    hp.every Statement.definesImportFree_of_isFunctionLevel
      Draft.BlockStatement.definesImportFree_read Draft.TopStatement.definesImportFree_read
  obtain ⟨d, h, μ, hμ, hmachine⟩ := hm
  have hpatch : Statement.EveryIn Statement.DefinesImportFree (Patch.ofDraft d).statements :=
    Draft.everyIn_readTop Statement.definesImportFree_of_isFunctionLevel
      Draft.BlockStatement.definesImportFree_read Draft.TopStatement.definesImportFree_read
      d.statements
  have hstart : (Machine.start h).2.ImportFree := by
    constructor
    · intro _ _ hf
      cases hf
    · intro _ _ hf
      cases hf
  have hinv := Moment.Reaches.invariant (J := Machine.ImportFree) hregistry hpatch
    (fun hc hm => hm.change rfl hc) (fun _ hm => ⟨hm.functions, hm.mixins⟩) hstart hμ
  rcases hmachine with rfl | rfl
  · exact hinv.1
  · exact hinv.2

/-- The terms of running statements that hold no imports: they may bind in the frames given,
which include all from `base` on. -/
def Terms.importFree (p : Provision) (hp : p.registry.FromDrafts) (base : Nat)
    (frames : FrameId → Prop) (own : ∀ id, base ≤ id → frames id) : Terms where
  provision := p
  statements := fun s => s.isImport = false
  frames := frames
  base := base
  accounted := False
  own := own
  global := fun ⟨_, _, h⟩ => by cases h
  registry :=
    { functions := fun hf => by
        obtain ⟨params, body, rfl⟩ := hp.functions hf
        exact Draft.routine_importFree_readFunction params body
      mixins := fun _ {_ _} hf => by
        obtain ⟨params, body, rfl⟩ := hp.mixins hf
        exact Draft.routine_importFree_readMixin params body
      libraries := fun ⟨_, _, h⟩ => by cases h }

section

variable {p : Provision} {hp : p.registry.FromDrafts} {base : Nat} {frames : FrameId → Prop}
  {own : ∀ id, base ≤ id → frames id}

theorem Machine.ImportFree.sound {m : Machine} (hm : m.ImportFree) (hbase : base ≤ m.frames.size) :
    m.Sound (.importFree p hp base frames own) fun _ => False where
  functions := hm.functions
  mixins := fun _ {_ _} hf => hm.mixins hf
  base := hbase
  matched := fun _ hid => hid.elim

/-- No account is kept of elements, so a context has nothing to promise. -/
theorem Context.admitted_importFree (ctx : Context) :
    ctx.Admitted (.importFree p hp base frames own) fun _ => False :=
  fun haccounted _ => haccounted.elim

end

/-! ## Names that a block does not bind -/

/-- From every machine that is in order, a computation leaves what a name is bound to in a frame
as it was, however it ends. -/
def Run.Spares {α : Type} (t : Terms) (block : FrameId) (x : String) (y : Run α) : Prop :=
  ∀ m : Machine, m.Sound t (fun _ => False) →
    (y.after m).Sound t (fun _ => False) ∧
      Table.get? ((y.after m).frames.bindings block) x = Table.get? (m.frames.bindings block) x

namespace Run.Spares

variable {α β : Type} {t : Terms} {block : FrameId} {x : String}

/-- What keeps to terms that do not offer a frame spares all names of that frame. -/
theorem of_makes {y : Run α} {Q : α → Prop} (hblock : ¬ t.frames block)
    (h : Makes t (fun _ => False) y Q) : Run.Spares t block x y := by
  intro m hm
  obtain ⟨hev, -⟩ := h m hm
  refine ⟨hm.evolves hev, ?_⟩
  rw [hev.bindings_eq hblock]

theorem pure (a : α) : Run.Spares t block x (Pure.pure a) := by
  intro m hm
  exact ⟨hm, rfl⟩

theorem bind {y : Run α} {f : α → Run β} (hy : Run.Spares t block x y)
    (hf : ∀ a, Run.Spares t block x (f a)) : Run.Spares t block x (y >>= f) := by
  intro m hm
  obtain ⟨hm', hget⟩ := hy m hm
  cases hr : y m with
  | error e m' =>
    rw [Run.after_error hr] at hm' hget
    rw [Run.after_error (Run.bind_error hr)]
    exact ⟨hm', hget⟩
  | ok a m' =>
    rw [Run.after_ok hr] at hm' hget
    rw [Run.after_bind_ok f hr]
    -- The rest begins where the first part has left the name as it was.
    obtain ⟨hm'', hget'⟩ := hf a m' hm'
    exact ⟨hm'', hget'.trans hget⟩

/-- A declaration spares all names but its own. -/
theorem declare (env : Environment) {name : String} (hname : name ≠ x) (v : Value) :
    Run.Spares t block x (Run.declare env name v) := by
  intro m hm
  refine ⟨⟨hm.functions, hm.mixins, ?_, hm.matched⟩, ?_⟩
  · show t.base ≤ (m.frames.bind env.innermost name v).size
    rw [Frames.size_bind]
    exact hm.base
  · show Table.get? ((m.frames.bind env.innermost name v).bindings block) x = _
    rw [Frames.bindings_bind]
    by_cases hb : env.innermost = block ∧ env.innermost < m.frames.size
    · rw [if_pos hb, Table.get?_insert, if_neg hname, hb.1]
    · rw [if_neg hb]

/-- A loop spares what its condition and its body spare. -/
theorem whileTrue (loc : Coordinate) (limit : Nat) {condition : Run Value} {body : Run Flow}
    (hcondition : Run.Spares t block x condition) (hbody : Run.Spares t block x body)
    (hblock : ¬ t.frames block) (budget : Nat) :
    Run.Spares t block x (Run.whileTrue loc limit condition body budget) := by
  induction budget with
  | zero =>
    refine hcondition.bind fun v => ?_
    split
    · exact of_makes hblock (Makes.fail (Q := fun _ => True) loc _)
    · exact pure _
  | succ budget ih =>
    refine hcondition.bind fun v => ?_
    split
    · refine hbody.bind fun flow => ?_
      cases flow with
      | next => exact ih
      | returned v => exact pure _
    · exact pure _

end Run.Spares

namespace Run

variable {t : Terms} {enter : Enter} {env : Environment} {ctx : Context} {x : String}

/-- A statement that binds nothing in its block spares all names there. -/
theorem spares_of_bindsInBlock (he : enter.Keeps t) (hctx : ctx.Admitted t fun _ => False)
    (henv : ¬ t.frames env.innermost) {s : Statement} (hs : s.Every t.statements)
    (hb : s.bindsInBlock = false) :
    Spares t env.innermost x (runStatement t.provision enter env ctx s) := by
  have hown : s.bindsInBlock = true → t.frames env.innermost := by
    intro h
    rw [hb] at h
    cases h
  exact Spares.of_makes henv (Makes.runStatement he s hs hown hctx)

mutual

/-- A statement that may not bind a name in its block leaves the name as it was there. -/
theorem spares_runStatement (he : enter.Keeps t) (hctx : ctx.Admitted t fun _ => False)
    (henv : ¬ t.frames env.innermost) : ∀ s : Statement, s.Every t.statements →
    s.rebinds x = false → Spares t env.innermost x (runStatement t.provision enter env ctx s)
  | .declare _ name e, hs, hx => by
    have hname : name ≠ x := by
      intro hname
      simp only [Statement.rebinds, hname, beq_self_eq_true] at hx
      cases hx
    have hvalue := Makes.evaluate he env hctx e hs.2
    refine (Spares.of_makes henv hvalue).bind fun v => ?_
    exact (Spares.declare env hname v).bind fun _ => .pure _
  | .whileTrue loc condition body, hs, hx => by
    have hvalue := Makes.evaluate he env hctx condition hs.2.1
    have hbody := spares_runBlock he hctx henv body hs.2.2 hx
    exact Spares.whileTrue loc _ (Spares.of_makes henv hvalue) hbody henv _
  | .includeMixin _ _ _, _, hx => by cases hx
  -- Everything else binds in frames of its own, or not at all.
  | .conditional .., hs, _ | .ret .., hs, _ | .forRange .., hs, _ | .forEach .., hs, _
  | .set .., hs, _ | .delete .., hs, _ | .merge .., hs, _ | .field .., hs, _
  | .selection .., hs, _ | .expression .., hs, _ | .importLibrary .., hs, _ | .stage .., hs, _
  | .function .., hs, _ | .mixin .., hs, _ | .error .., hs, _ =>
    spares_of_bindsInBlock he hctx henv hs rfl

theorem spares_runBlock (he : enter.Keeps t) (hctx : ctx.Admitted t fun _ => False)
    (henv : ¬ t.frames env.innermost) : ∀ body : List Statement,
    Statement.EveryIn t.statements body → Statement.anyRebinds x body = false →
    Spares t env.innermost x (runBlock t.provision enter env ctx body)
  | [], _, _ => .pure _
  | s :: rest, hbody, hx => by
    obtain ⟨hs, hrest⟩ := Bool.or_eq_false_iff.mp hx
    refine (spares_runStatement he hctx henv s hbody.1 hs).bind fun flow => ?_
    cases flow with
    | next => exact spares_runBlock he hctx henv rest hbody.2 hrest
    | returned v => exact .pure _

end

/-! ## Confinement -/

section

variable {p : Provision} {m : Machine}

/-- Of the frames that were there before, a block changes at most the innermost one of its
environment. -/
theorem runBlock_bindings_eq (hp : p.registry.FromDrafts) (hm : m.ImportFree) (levels : Nat)
    (env : Environment) (ctx : Context) {body : List Statement}
    (hbody : Statement.EveryIn (fun s => s.isImport = false) body) {id : FrameId}
    (hid : id < m.frames.size) (hne : id ≠ env.innermost) :
    ((runBlock p (enterWithin p levels) env ctx body).after m).frames.bindings id =
      m.frames.bindings id := by
  let t : Terms := .importFree p hp m.frames.size
    (fun id => m.frames.size ≤ id ∨ id = env.innermost) fun _ h => .inl h
  have hmakes : Makes t (fun _ => False) (runBlock p (enterWithin p levels) env ctx body)
      fun _ => True :=
    Makes.runBlock (enterWithin_keeps t levels) body hbody (.inr rfl)
      (Context.admitted_importFree ctx)
  obtain ⟨hev, -⟩ := hmakes m (hm.sound (Nat.le_refl _))
  refine hev.bindings_eq ?_
  rintro (hle | heq)
  · exact Nat.not_le.mpr hid hle
  · exact hne heq

/-- In the innermost frame, a block changes no name that its statements do not bind there. -/
theorem runBlock_get?_eq (hp : p.registry.FromDrafts) (hm : m.ImportFree) (levels : Nat)
    (env : Environment) (ctx : Context) {body : List Statement}
    (hbody : Statement.EveryIn (fun s => s.isImport = false) body) {x : String}
    (hx : Statement.anyRebinds x body = false) (hid : env.innermost < m.frames.size) :
    Table.get? (((runBlock p (enterWithin p levels) env ctx body).after m).frames.bindings
      env.innermost) x = Table.get? (m.frames.bindings env.innermost) x := by
  let t : Terms := .importFree p hp m.frames.size (fun id => m.frames.size ≤ id) fun _ h => h
  have hblock := spares_runBlock (enterWithin_keeps t levels) (Context.admitted_importFree ctx)
    (Nat.not_le.mpr hid) body hbody hx
  exact (hblock m (hm.sound (Nat.le_refl _))).2

/-- **Scopes do not leak.** At whatever machine an execution arrives, in any environment and
context and however it ends, a block without imports changes no frame that was there before but
the innermost one of its environment. A name that the block neither declares nor lets its `while`
loops declare means the same to the statements that follow as it did before, in whatever scope
they look it up, if the block includes no mixin. -/
theorem runBlock_confined (hp : p.registry.FromDrafts) (hm : Reachable p m) (levels : Nat)
    (env : Environment) (ctx : Context) {body : List Statement}
    (hbody : Statement.EveryIn (fun s => s.isImport = false) body) :
    let m' := (runBlock p (enterWithin p levels) env ctx body).after m
    (∀ id, id < m.frames.size → id ≠ env.innermost →
      m'.frames.bindings id = m.frames.bindings id) ∧
    ∀ x, Statement.anyRebinds x body = false → ∀ scope : Environment, scope.Within m.frames →
      scope.findInward? m'.frames x = scope.findInward? m.frames x ∧
      scope.findOutward? m'.frames x = scope.findOutward? m.frames x := by
  intro m'
  have hfree := hm.importFree hp
  have hframe : ∀ id, id < m.frames.size → id ≠ env.innermost →
      m'.frames.bindings id = m.frames.bindings id :=
    fun _ hid hne => runBlock_bindings_eq hp hfree levels env ctx hbody hid hne
  refine ⟨hframe, fun x hx scope hscope => ?_⟩
  have hget : ∀ id, id < m.frames.size →
      Table.get? (m'.frames.bindings id) x = Table.get? (m.frames.bindings id) x := by
    intro id hid
    by_cases hne : id = env.innermost
    · subst hne
      exact runBlock_get?_eq hp hfree levels env ctx hbody hx hid
    · rw [hframe id hid hne]
  exact ⟨Frames.find?_congr fun id hid => hget id (hscope.bound_inward id hid),
    Frames.find?_congr fun id hid => hget id (hscope.bound id hid)⟩

end

/-- After `$x = true` and a branch with `$y = keep($x)`, another branch in the frame of that one
declares `$y` as nothing, and leaves both frames around it as they were. -/
theorem runBlock_confined_branch :
    let p : Provision := ⟨.keeping, .standard⟩
    let call : Draft.Expr := .call .origin "keep" [.mk .origin none (.variable .origin "$x")]
    let branch (e : Draft.Expr) : Draft.TopStatement :=
      .conditional .origin (.boolean .origin true) [.declare .origin "$y" e] [] none
    let d : Draft := ⟨.origin, [.declare .origin "$x" (.boolean .origin true), branch call]⟩
    let m := (Moment.start p (Patch.ofDraft d) (Host.empty [])).after p
    let env : Environment := ⟨0, [1]⟩
    let body := Draft.readTop [branch (.null .origin)]
    let m' := (runBlock p (enterWithin p 2) env default body).after m
    m'.frames.bindings 0 = m.frames.bindings 0 ∧
      env.findInward? m'.frames "y" = env.findInward? m.frames "y" ∧
      (env.findInward? m.frames "y").map Value.isTruthy = some true := by
  intro p call branch d m env body m'
  have hm : Reachable p m := ⟨d, Host.empty [], _, .refl, .inr rfl⟩
  have hbody : Statement.EveryIn (fun s => s.isImport = false) body :=
    ⟨⟨rfl, trivial, ⟨⟨rfl, trivial⟩, trivial⟩, trivial⟩, trivial⟩
  have hsize : m.frames.size = 3 := rfl
  have henv : env.Within m.frames := by
    refine ⟨by decide, ?_⟩
    rw [hsize]
    decide
  have hconfined := runBlock_confined Registry.fromDrafts_keeping hm 2 env default hbody
  have hglobal : 0 < m.frames.size := by
    rw [hsize]
    decide
  refine ⟨hconfined.1 0 hglobal (by decide), (hconfined.2 "y" rfl env henv).1, ?_⟩
  decide +kernel

end Run

end Graft
