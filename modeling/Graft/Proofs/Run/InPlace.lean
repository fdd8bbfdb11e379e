import Graft.Proofs.Run.Inclusion
import Graft.Proofs.Run.Nesting

/-!
Where the inclusion of a mixin is the same as its body in place.

A mixin without parameters ends as its body does in place of the inclusion, with the same
host, the same report and the same bindings, unless it binds a name that the block has bound
already. Then `$name` means the old binding while the mixin runs, and the new one in place.
A frame around the block that binds the name too makes up for that, because `$name` means
what is bound there in both cases. This is said of every state in which the environment is a
chain of frames of the store and the calls have levels left, and so of every moment of an
execution at which a block includes a mixin.

That is the exact condition. For every name that the block binds, and no frame around it,
there is a mixin that declares the name, declares it again as what it then means, and leaves
the block with another binding than its body in place.
-/

set_option autoImplicit false

namespace Graft

/-! ## Inclusions as they run -/

namespace Run

variable {p : Provision} {m : Machine} {env : Environment} {ctx : Context} {loc : Coordinate}
  {name : String} {body : List Statement}

theorem exportBindings_nil (env : Environment) (t : Table Value) (m : Machine) :
    exportBindings [] env t m = .ok () { m with frames := m.frames.bindAll env.innermost t } := by
  induction t generalizing m with
  | nil => rfl
  | cons e rest ih => exact ih { m with frames := env.declare m.frames e.1 e.2 }

/-- A routine without parameters runs its body one call deeper, if the limit admits it. -/
theorem enterWithin_plain (levels : Nat) (name : String) (body : List Statement)
    (frame : Environment) (ctx : Context) (loc : Coordinate)
    (hdepth : m.callDepth < p.settings.limits.maxCallDepth) :
    enterWithin p (levels + 1) name ⟨[], body⟩ [] frame ctx loc m =
      match runBlock p (enterWithin p levels) frame ctx body m.deeper with
      | .ok flow m' => .ok flow m'.shallower
      | .error e m' => .error e m'.shallower := by
  have hbound : bindArguments (evaluate p (enterWithin p levels) frame ctx) name [] [] frame loc
      m.deeper = .ok () m.deeper := rfl
  rw [enterWithin, withCall_of_lt loc _ hdepth, bind_ok hbound]
  cases runBlock p (enterWithin p levels) frame ctx body m.deeper <;> rfl

/-- An inclusion without arguments enters the mixin in a new frame, and then binds what is bound
there in the frame of the block. -/
theorem runStatement_includeMixin (enter : Enter) (env : Environment) (ctx : Context)
    (loc : Coordinate) {mixin : Routine}
    (hlookup : (Table.get? m.mixins name).or (p.registry.mixin? name) = some mixin) :
    runStatement p enter env ctx (.includeMixin loc name []) m =
      ((enter name mixin [] (env.child m.frames).1 ctx loc >>= fun _ =>
        MonadState.get >>= fun m' =>
          exportBindings mixin.params env ((env.child m.frames).1.declared m'.frames)) >>= fun _ =>
        pure Flow.next) m.opened := by
  rw [runStatement, get_bind, hlookup]
  rfl

/-- An inclusion that the limit admits runs the body in the mixin's frame, one call deeper, and
binds what is bound there in the end in the frame of the block. -/
theorem runStatement_includeMixin_of_lt (env : Environment) (ctx : Context) (loc : Coordinate)
    (levels : Nat)
    (hlookup : (Table.get? m.mixins name).or (p.registry.mixin? name) = some ⟨[], body⟩)
    (hdepth : m.callDepth < p.settings.limits.maxCallDepth) :
    runStatement p (enterWithin p (levels + 1)) env ctx (.includeMixin loc name []) m =
      match runBlock p (enterWithin p levels) (env.child m.frames).1 ctx body m.opened.deeper with
      | .ok _ m' => .ok .next
          { m'.shallower with
            frames := m'.frames.bindAll env.innermost (m'.frames.bindings m.frames.size) }
      | .error e m' => .error e m'.shallower := by
  have henter := enterWithin_plain (m := m.opened) levels name body (env.child m.frames).1 ctx loc
    hdepth
  rw [runStatement_includeMixin _ env ctx loc hlookup]
  cases hr : runBlock p (enterWithin p levels) (env.child m.frames).1 ctx body m.opened.deeper with
  | error e m' =>
    rw [hr] at henter
    rw [bind_error (bind_error henter)]
  | ok flow m' =>
    rw [hr] at henter
    rw [bind_ok ((bind_ok henter).trans (exportBindings_nil env _ _))]
    rfl

/-- An inclusion that the limit does not admit halts at it. -/
theorem runStatement_includeMixin_of_le (env : Environment) (ctx : Context) (loc : Coordinate)
    (levels : Nat) {mixin : Routine}
    (hlookup : (Table.get? m.mixins name).or (p.registry.mixin? name) = some mixin)
    (hdepth : p.settings.limits.maxCallDepth ≤ m.callDepth) :
    runStatement p (enterWithin p (levels + 1)) env ctx (.includeMixin loc name []) m =
      .error (.failed ⟨loc, .callLimit p.settings.limits.maxCallDepth⟩) m.opened := by
  have henter : enterWithin p (levels + 1) name mixin [] (env.child m.frames).1 ctx loc m.opened =
      .error (.failed ⟨loc, .callLimit p.settings.limits.maxCallDepth⟩) m.opened := if_pos hdepth
  rw [runStatement_includeMixin _ env ctx loc hlookup, bind_error (bind_error henter)]

/-- Runs that end alike: in the same way, with the same host and the same report, and, if they
go on, with the same bindings in the frames below `size`. -/
inductive SameEnd (size : Nat) :
    EStateM.Result Halt Machine Flow → EStateM.Result Halt Machine Flow → Prop
  | ok {flow : Flow} {m₁ m₂ : Machine} : m₁.host = m₂.host → m₁.report = m₂.report →
    (∀ (id : FrameId) (name : String), id < size →
      Table.get? (m₁.frames.bindings id) name = Table.get? (m₂.frames.bindings id) name) →
    SameEnd size (.ok flow m₁) (.ok flow m₂)
  | error {e : Halt} {m₁ m₂ : Machine} : m₁.host = m₂.host → m₁.report = m₂.report →
    SameEnd size (.error e m₁) (.error e m₂)

/-- The inclusion of a mixin ends as its body does in place of it, unless it halts at a
limit. -/
def InPlace (p : Provision) (levels : Nat) (env : Environment) (ctx : Context) (loc : Coordinate)
    (name : String) (body : List Statement) (m : Machine) : Prop :=
  (∃ e m', runStatement p (enterWithin p levels) env ctx (.includeMixin loc name []) m =
    .error e m' ∧ e.AtLimit) ∨
  SameEnd m.frames.size
    (runStatement p (enterWithin p levels) env ctx (.includeMixin loc name []) m)
    (runBlock p (enterWithin p levels) env ctx body m)

/-- The inclusion of a mixin binds a name in the mixin's frame, which is the first that it
opens. -/
def MixinBinds (p : Provision) (levels : Nat) (env : Environment) (ctx : Context)
    (loc : Coordinate) (name : String) (m : Machine) (x : String) : Prop :=
  ((runStatement p (enterWithin p levels) env ctx (.includeMixin loc name [])).after m).frames.Binds
    m.frames.size x

section

variable {levels global block : Nat} {outer : List Nat}
  (henv : Environment.Within ⟨global, block :: outer⟩ m.frames)
  (hdepth : m.callDepth < p.settings.limits.maxCallDepth)
  (hlevels : p.settings.limits.maxCallDepth < m.callDepth + (levels + 1))

include henv hdepth hlevels

/-- The body of a mixin mirrors itself: in the mixin's frame and one call deeper on the left,
in place on the right. -/
theorem ends_of_unhidden (ctx : Context) (body : List Statement)
    (hgood : Inclusion.Unhidden m.frames ⟨global, block :: outer⟩
      ((runBlock p (enterWithin p levels) ⟨global, m.frames.size :: block :: outer⟩ ctx body).after
        m.opened.deeper).frames) :
    (Mirror.inclusion p henv).Ends (m.callDepth + 1) m.callDepth (· = ·)
      (runBlock p (enterWithin p levels) ⟨global, m.frames.size :: block :: outer⟩ ctx body
        m.opened.deeper)
      (runBlock p (enterWithin p (levels + 1)) ⟨global, block :: outer⟩ ctx body m) := by
  -- In place there is one call more to go.
  have hroom : m.callDepth + p.settings.limits.maxCallDepth ≤
      m.callDepth + 1 + p.settings.limits.maxCallDepth := by omega
  have hbelow : p.settings.limits.maxCallDepth < m.callDepth + 1 + levels := by omega
  have he : Enter.Mirrors (.inclusion p henv) (m.callDepth + 1) m.callDepth
      (enterWithin p levels) (enterWithin p (levels + 1)) :=
    enterWithin_mirrors (.inclusion p henv) levels (levels + 1) hdepth hbelow hlevels hroom
      (.inr fun _ h => h)
  have hstart : (Mirror.inclusion p henv).Machines (m.callDepth + 1) m.callDepth
      m.opened.deeper m :=
    { left := ⟨rfl, .refl _⟩
      right := rfl
      host := rfl
      report := rfl
      functions := rfl
      mixins := rfl
      frames := .refl (Inclusion.block_lt henv) }
  exact (Mirrors.runBlock he body (Inclusion.Envs.start henv) ctx).ends hstart hgood

/-- Where the frame of the block hides nothing of the mixin, the inclusion ends as the body of
the mixin does in place of it. -/
theorem inPlace_of_unhidden
    (hlookup : (Table.get? m.mixins name).or (p.registry.mixin? name) = some ⟨[], body⟩)
    (hbody : Statement.mayReturnIn body = false)
    (hgood : ∀ x, MixinBinds p (levels + 1) ⟨global, block :: outer⟩ ctx loc name m x →
      m.frames.Binds block x → ∃ id ∈ outer ++ [global], m.frames.Binds id x) :
    InPlace p (levels + 1) ⟨global, block :: outer⟩ ctx loc name body m := by
  have hblock := Inclusion.block_lt henv
  have hinclude := runStatement_includeMixin_of_lt ⟨global, block :: outer⟩ ctx loc levels hlookup
    hdepth
  have hends := ends_of_unhidden henv hdepth hlevels ctx body
  rw [Environment.child_eq m.frames rfl] at hinclude
  cases hr : runBlock p (enterWithin p levels) ⟨global, m.frames.size :: block :: outer⟩ ctx body
    m.opened.deeper with
  | error e m₁ =>
    rw [hr] at hinclude
    simp only [MixinBinds, after_error hinclude] at hgood
    rw [after_error hr, hr] at hends
    replace hends := hends hgood
    rw [InPlace, hinclude]
    generalize runBlock p (enterWithin p (levels + 1)) ⟨global, block :: outer⟩ ctx body m = r
      at hends ⊢
    cases hends with
    | excused hlimit => exact .inl ⟨e, _, rfl, hlimit⟩
    | error hhost hreport => exact .inr (.error hhost hreport)
  | ok flow m₁ =>
    rw [hr] at hinclude
    simp only [MixinBinds, after_ok hinclude] at hgood
    rw [after_ok hr, hr] at hends
    -- What is handed over in the end is bound in the frame of the block alone.
    have hown : ∀ x, m₁.frames.Binds m.frames.size x →
        (m₁.frames.bindAll block (m₁.frames.bindings m.frames.size)).Binds m.frames.size x :=
      fun x hx => (m₁.frames.grows_bindAll block _).names hx
    replace hends := hends fun x hx => hgood x (hown x hx)
    have hnext : flow = .next := GoesOn.runBlock _ ctx body hbody _ _ _ hr
    subst hnext
    rw [InPlace, hinclude]
    generalize runBlock p (enterWithin p (levels + 1)) ⟨global, block :: outer⟩ ctx body m = r
      at hends ⊢
    cases hends with
    | @ok _ b _ m₂ heq hm =>
      subst heq
      refine .inr (.ok hm.host hm.report fun id x hid => ?_)
      have hsplit : Inclusion.Split m.frames block m₁.frames m₂.frames := hm.frames
      -- The frame of the block has got the mixin's bindings; the other frames are the same anyway.
      by_cases hne : id = block
      · subst hne
        have hthere : id < m₁.frames.size := Nat.lt_trans hblock hsplit.own
        show Table.get? ((m₁.frames.bindAll id _).bindings id) x = _
        rw [Frames.get?_bindAll hthere hsplit.distinct, hsplit.joined, hsplit.kept]
      · have hsame := hsplit.apart hne
        rw [Inclusion.moved_of_lt hne hid] at hsame
        show Table.get? ((m₁.frames.bindAll block _).bindings id) x = _
        rw [Frames.bindings_bindAll_of_ne _ hne, hsame]

end

/-- **At every moment.** Wherever an execution includes a mixin without parameters in a block,
the inclusion ends as the mixin's body does in place of it, unless it halts at a limit or the
mixin binds a name that the block has bound and no frame around the block has. -/
theorem inPlace_of_reaches {patch : Patch} {h : Host} {levels : Nat}
    {body : List Draft.BlockStatement}
    (hμ : Moment.Reaches p (.start p patch h)
      ⟨levels, .statement env ctx (.includeMixin loc name []), m⟩)
    (hblock : env.inner ≠ [])
    (hlookup : (Table.get? m.mixins name).or (p.registry.mixin? name) =
      some ⟨[], Draft.readBlock body⟩)
    (hbound : ∀ x, MixinBinds p levels env ctx loc name m x → m.frames.Binds env.innermost x →
      ∃ id ∈ env.around, m.frames.Binds id x) :
    InPlace p levels env ctx loc name (Draft.readBlock body) m := by
  obtain ⟨hwithin, hdepth, hlevels⟩ := hμ.nested
  dsimp only at hdepth hlevels
  obtain ⟨global, inner⟩ := env
  obtain ⟨block, outer, rfl⟩ := List.exists_cons_of_ne_nil hblock
  obtain ⟨levels, rfl⟩ : ∃ l, levels = l + 1 := ⟨levels - 1, by omega⟩
  by_cases hlt : m.callDepth < p.settings.limits.maxCallDepth
  · exact inPlace_of_unhidden hwithin hlt (by omega) hlookup (Draft.mayReturnIn_readBlock body)
      hbound
  · have hstop := runStatement_includeMixin_of_le ⟨global, block :: outer⟩ ctx loc levels hlookup
      (Nat.not_lt.mp hlt)
    exact .inl ⟨_, _, hstop, rfl⟩

/-! ## A mixin that tells the difference -/

/-- A block that declares a name twice, first as a value and then as what the name means. -/
theorem runBlock_redeclare {enter : Enter} {x : String} {v w : Value}
    (h : env.findInward? (env.declare m.frames x v) x = some w) :
    runBlock p enter env ctx [.declare loc x (.literal loc v), .declare loc x (.variable loc x)] m =
      .ok .next { m with frames := env.declare (env.declare m.frames x v) x w } := by
  let m' : Machine := { m with frames := env.declare m.frames x v }
  have hfirst : runStatement p enter env ctx (.declare loc x (.literal loc v)) m = .ok .next m' :=
    rfl
  have hvalue : evaluate p enter env ctx (.variable loc x) m' = .ok w m' := by
    have hfound : env.findInward? m'.frames x = some w := h
    rw [evaluate, get_bind, hfound]
    rfl
  have hsecond : runStatement p enter env ctx (.declare loc x (.variable loc x)) m' =
      .ok .next { m' with frames := env.declare m'.frames x w } := by
    rw [runStatement, bind_ok hvalue]
    rfl
  rw [runBlock, bind_ok hfirst]
  show runBlock p enter env ctx [.declare loc x (.variable loc x)] m' = _
  rw [runBlock, bind_ok hsecond]
  rfl

end Run

/-- What is the same as a truth value is that truth value. -/
theorem Value.eq_of_same_bool : ∀ {v : Value} {b : Bool}, v.same (.bool b) = true → v = .bool b
  | .bool a, b, h => by simpa [Value.same] using h
  | .null, _, h | .deletion, _, h | .int _, _, h | .float _, _, h | .string _, _, h
  | .list _, _, h | .object _, _, h => by cases h

/-- The body of a mixin that declares a name twice, first as a truth value and then as what the
name means. -/
def Draft.redeclaring (x : String) (b : Bool) : List Draft.BlockStatement :=
  [.declare .origin ("$" ++ x) (.boolean .origin b),
    .declare .origin ("$" ++ x) (.variable .origin ("$" ++ x))]

theorem Draft.readBlock_redeclaring (x : String) (b : Bool) :
    Draft.readBlock (Draft.redeclaring x b) =
      [.declare .origin x (.literal .origin (.bool b)),
        .declare .origin x (.variable .origin x)] := by
  have hname : variableName ("$" ++ x) = x := by
    rw [variableName, String.toList_append]
    exact String.ofList_toList
  have hmark : withoutMark "$" ("$" ++ x) = x := by
    rw [withoutMark, String.toList_append]
    exact String.ofList_toList
  simp only [redeclaring, readBlock, BlockStatement.read, Expr.read, hname, hmark]

namespace Run

variable {p : Provision} {m : Machine} {ctx : Context} {loc : Coordinate} {name : String}

section

variable {levels global block : Nat} {outer : List Nat}
  (henv : Environment.Within ⟨global, block :: outer⟩ m.frames) {x : String} {b : Bool}
  (haround : ∀ id ∈ outer ++ [global], ¬ m.frames.Binds id x)

include henv haround

/-- Included, the second declaration finds what the block had bound. -/
theorem includeMixin_redeclaring (levels : Nat) (ctx : Context) (loc : Coordinate)
    (hdepth : m.callDepth < p.settings.limits.maxCallDepth) {old : Value}
    (hold : Table.get? (m.frames.bindings block) x = some old)
    (hlookup : (Table.get? m.mixins name).or (p.registry.mixin? name) =
      some ⟨[], Draft.readBlock (Draft.redeclaring x b)⟩) :
    ∃ m', runStatement p (enterWithin p (levels + 1)) ⟨global, block :: outer⟩ ctx
        (.includeMixin loc name []) m = .ok .next m' ∧
      m'.frames.bindings m.frames.size = [(x, old)] ∧
      Table.get? (m'.frames.bindings block) x = some old := by
  have hblock := Inclusion.block_lt henv
  have hthere : m.frames.size < m.frames.fresh.2.size := m.frames.size_lt_fresh
  let opened := m.frames.fresh.2.bind m.frames.size x (.bool b)
  have hbefore : ∀ {id : Nat}, id < m.frames.size →
      opened.bindings id = m.frames.bindings id := fun {id} hid => by
    rw [Frames.bindings_bind, if_neg (fun hc => Nat.ne_of_gt hid hc.1), Frames.bindings_fresh]
  -- The block comes before the mixin's frame, and nothing around the block binds the name.
  have hfind : Environment.findInward? ⟨global, m.frames.size :: block :: outer⟩ opened x =
      some old := by
    have hunbound : ∀ id ∈ outer ++ [global], ¬ opened.Binds id x := fun id hid => by
      rw [Frames.Binds, hbefore (henv.bound id (List.mem_cons_of_mem _ hid))]
      exact haround id hid
    refine (Environment.findInward?_of_unbound hunbound [m.frames.size]).trans ?_
    rw [hbefore hblock, hold]
    rfl
  have hmixin : (opened.bind m.frames.size x old).bindings m.frames.size = [(x, old)] := by
    rw [Frames.bindings_bind, Frames.size_bind, if_pos ⟨rfl, hthere⟩, Frames.bindings_bind,
      if_pos ⟨rfl, hthere⟩, Frames.bindings_fresh_self, Table.insert, Table.insert, if_pos rfl]
  have hinclude := runStatement_includeMixin_of_lt ⟨global, block :: outer⟩ ctx loc levels hlookup
    hdepth
  rw [Environment.child_eq m.frames rfl, Draft.readBlock_redeclaring,
    runBlock_redeclare (m := m.opened.deeper) hfind] at hinclude
  refine ⟨_, hinclude, ?_, ?_⟩
  · show ((opened.bind m.frames.size x old).bindAll block _).bindings m.frames.size = _
    rw [Frames.bindings_bindAll_of_ne _ (Nat.ne_of_gt hblock), hmixin]
  · show Table.get? (((opened.bind m.frames.size x old).bindAll block
      ((opened.bind m.frames.size x old).bindings m.frames.size)).bindings block) x = _
    rw [hmixin, Frames.get?_bindAll, Table.get?, if_pos rfl]
    · rfl
    · rw [Frames.size_bind, Frames.size_bind]
      exact Nat.lt_trans hblock hthere
    · exact List.pairwise_singleton _ _

/-- In place, it finds what the first declaration has just bound. -/
theorem runBlock_redeclaring (p : Provision) (enter : Enter) (ctx : Context) (b : Bool) :
    ∃ m', runBlock p enter ⟨global, block :: outer⟩ ctx
        (Draft.readBlock (Draft.redeclaring x b)) m = .ok .next m' ∧
      Table.get? (m'.frames.bindings block) x = some (.bool b) := by
  have hblock := Inclusion.block_lt henv
  let bound := m.frames.bind block x (.bool b)
  have hbound : bound.bindings block = Table.insert (m.frames.bindings block) x (.bool b) := by
    rw [Frames.bindings_bind, if_pos ⟨rfl, hblock⟩]
  have hfind : Environment.findInward? ⟨global, block :: outer⟩ bound x = some (.bool b) := by
    have hunbound : ∀ id ∈ outer ++ [global], ¬ bound.Binds id x := fun id hid => by
      have hne : block ≠ id := fun heq => (List.nodup_cons.mp henv.nodup).1 (heq ▸ hid)
      rw [Frames.Binds, Frames.bindings_bind, if_neg fun hc => hne hc.1]
      exact haround id hid
    refine (Environment.findInward?_of_unbound hunbound []).trans ?_
    rw [hbound, Table.get?_insert, if_pos rfl]
    rfl
  rw [Draft.readBlock_redeclaring]
  refine ⟨_, runBlock_redeclare hfind, ?_⟩
  show Table.get? ((bound.bind block x (.bool b)).bindings block) x = _
  rw [Frames.bindings_bind, Frames.size_bind, if_pos ⟨rfl, hblock⟩, Table.get?_insert, if_pos rfl]

/-- A name that is bound in the block and not around it is hidden from some mixin that binds
nothing else. -/
theorem not_inPlace_redeclaring (levels : Nat) (ctx : Context) (loc : Coordinate)
    (hdepth : m.callDepth < p.settings.limits.maxCallDepth) {old : Value}
    (hold : Table.get? (m.frames.bindings block) x = some old) (hne : old ≠ .bool b)
    (hlookup : (Table.get? m.mixins name).or (p.registry.mixin? name) =
      some ⟨[], Draft.readBlock (Draft.redeclaring x b)⟩) :
    (∀ y, MixinBinds p (levels + 1) ⟨global, block :: outer⟩ ctx loc name m y → y = x) ∧
      ¬ InPlace p (levels + 1) ⟨global, block :: outer⟩ ctx loc name
        (Draft.readBlock (Draft.redeclaring x b)) m := by
  obtain ⟨m₁, hinclude, hmixin, hafter⟩ :=
    includeMixin_redeclaring henv haround levels ctx loc hdepth hold hlookup
  obtain ⟨m₂, hplace, hafter'⟩ :=
    runBlock_redeclaring henv haround p (enterWithin p (levels + 1)) ctx b
  refine ⟨fun y hy => ?_, ?_⟩
  · rw [MixinBinds, after_ok hinclude, Frames.Binds, hmixin, Table.has, Table.get?] at hy
    by_contra hyx
    rw [if_neg fun heq => hyx heq.symm] at hy
    cases hy
  · rw [InPlace, hinclude, hplace]
    rintro (⟨e, m', hstop, -⟩ | hsame)
    · cases hstop
    · cases hsame with
      | ok _ _ hbindings =>
        have hx := hbindings block x (Inclusion.block_lt henv)
        rw [hafter, hafter'] at hx
        exact hne (Option.some.inj hx)

end

/-- **Inclusions and their bodies in place.** In a block where the limit admits a call, the
inclusions of all mixins without parameters that bind only names in `N` end as their bodies do
in place, unless they halt at a limit, exactly if every name in `N` that the block binds is
bound in a frame around it as well. -/
theorem includeMixin_inPlace_iff {env : Environment} (henv : env.Within m.frames)
    (hblock : env.inner ≠ []) {levels : Nat}
    (hdepth : m.callDepth < p.settings.limits.maxCallDepth)
    (hlevels : p.settings.limits.maxCallDepth < m.callDepth + levels) (ctx : Context)
    (N : String → Prop) :
    (∀ (mixins : Table Routine) (loc : Coordinate) (name : String)
      (body : List Draft.BlockStatement),
      (Table.get? mixins name).or (p.registry.mixin? name) = some ⟨[], Draft.readBlock body⟩ →
      (∀ x, MixinBinds p levels env ctx loc name { m with mixins } x → N x) →
      InPlace p levels env ctx loc name (Draft.readBlock body) { m with mixins }) ↔
    ∀ x, N x → m.frames.Binds env.innermost x → ∃ id ∈ env.around, m.frames.Binds id x := by
  obtain ⟨global, inner⟩ := env
  obtain ⟨block, outer, rfl⟩ := List.exists_cons_of_ne_nil hblock
  obtain ⟨levels, rfl⟩ : ∃ l, levels = l + 1 := ⟨levels - 1, by omega⟩
  constructor
  · intro hflat x hx hbinds
    by_contra hnone
    have haround : ∀ id ∈ outer ++ [global], ¬ m.frames.Binds id x :=
      fun id hid hb => hnone ⟨id, hid, hb⟩
    obtain ⟨old, hold⟩ := Option.isSome_iff_exists.mp hbinds
    -- One of the two truth values is not what the block had bound.
    obtain ⟨b, hne⟩ : ∃ b, old ≠ .bool b := by
      by_cases ht : old = .bool true
      · exact ⟨false, fun hf => by cases ht.symm.trans hf⟩
      · exact ⟨true, ht⟩
    -- The mixin that redeclares the name binds nothing else, and does not end as in place.
    let mixins : Table Routine := [("m", ⟨[], Draft.readBlock (Draft.redeclaring x b)⟩)]
    have hlookup : (Table.get? mixins "m").or (p.registry.mixin? "m") =
        some ⟨[], Draft.readBlock (Draft.redeclaring x b)⟩ := rfl
    obtain ⟨honly, hnot⟩ := not_inPlace_redeclaring (m := { m with mixins }) henv haround levels
      ctx .origin hdepth hold hne hlookup
    exact hnot (hflat mixins .origin "m" _ hlookup fun y hy => honly y hy ▸ hx)
  · intro hbound mixins loc name body hlookup honly
    exact inPlace_of_unhidden (m := { m with mixins }) henv hdepth hlevels hlookup
      (Draft.mayReturnIn_readBlock body) fun x hx hb => hbound x (honly x hx) hb

/-- In a block that has bound nothing, the mixin that redeclares `x` ends as its body does in
place, and the block then has its binding. -/
theorem includeMixin_inPlace_iff_unbound :
    let p : Provision := ⟨.withActiveMods [], .standard⟩
    let body := Draft.redeclaring "x" true
    let mixins : Table Routine := [("m", ⟨[], Draft.readBlock body⟩)]
    let m := { (Machine.start (Host.empty [])).2.opened with mixins }
    let env : Environment := ⟨0, [1]⟩
    let levels := p.settings.limits.maxCallDepth + 1
    env.Within m.frames ∧ env.inner ≠ [] ∧ m.callDepth < p.settings.limits.maxCallDepth ∧
      p.settings.limits.maxCallDepth < m.callDepth + levels ∧
      InPlace p levels env default .origin "m" (Draft.readBlock body) m ∧
      ∃ m', runStatement p (enterWithin p levels) env default (.includeMixin .origin "m" []) m =
        .ok .next m' ∧ Table.get? (m'.frames.bindings 1) "x" = some (.bool true) := by
  intro p body mixins m env levels
  have henv : env.Within m.frames := (Environment.Within.start .empty).child
  have hinner : env.inner ≠ [] := List.cons_ne_nil _ _
  have hdepth : m.callDepth < p.settings.limits.maxCallDepth := by decide
  have hlevels : p.settings.limits.maxCallDepth < m.callDepth + levels := by decide
  have hiff := includeMixin_inPlace_iff henv hinner hdepth hlevels default fun _ => True
  have hempty : ∀ x, ¬ m.frames.Binds env.innermost x := fun _ h => Bool.false_ne_true h
  refine ⟨henv, hinner, hdepth, hlevels, ?_, _, rfl, rfl⟩
  exact hiff.mpr (fun x _ h => absurd h (hempty x)) mixins .origin "m" body rfl fun _ _ => trivial

/-- The block has bound `x` as `true`, and a mixin declares it as `false` and sets the element to
it. Included, the mixin sets the element to `true`, and in place to `false`. -/
theorem includeMixin_not_inPlace :
    let p : Provision := ⟨.withActiveMods [], .standard⟩
    let levels := p.settings.limits.maxCallDepth + 1
    let body : List Draft.BlockStatement :=
      [.declare .origin "$x" (.boolean .origin false), .set .origin (.variable .origin "$x")]
    let bound : Draft.BlockStatement := .declare .origin "$x" (.boolean .origin true)
    let h := Host.ofDescription [] (.mk "doc" none [] .null [.mk "a" none [] .null [] false] false)
    let m := { (Machine.start h).2.opened with
      mixins := [("m", ⟨[], Draft.readBlock body⟩)] }
    let env : Environment := ⟨0, [1]⟩
    let ctx : Context := ⟨1, true, [1, 0]⟩
    let included : Draft := ⟨.origin, [.mixin .origin "m" [] body,
      .selection .origin [] (.wildcard .origin) [bound, .includeMixin .origin "m" []]]⟩
    let inPlace : Draft := ⟨.origin, [.mixin .origin "m" [] body,
      .selection .origin [] (.wildcard .origin) (bound :: body)]⟩
    (∃ m', runStatement p (enterWithin p levels) env ctx bound.read m = .ok .next m' ∧
      ¬ InPlace p levels env ctx .origin "m" (Draft.readBlock body) m') ∧
    (((Patch.ofDraft included).execute p h).2.get 1).value = .bool true ∧
    (((Patch.ofDraft inPlace).execute p h).2.get 1).value = .bool false := by
  intro p levels body bound h m env ctx included inPlace
  refine ⟨⟨_, rfl, ?_⟩, Value.eq_of_same_bool (by decide +kernel),
    Value.eq_of_same_bool (by decide +kernel)⟩
  rintro (⟨e, m', hstop, -⟩ | hsame)
  · cases hstop
  · cases hsame with
    | ok hhost _ _ =>
      have hvalue := congrArg (fun h : Host => (h.get 1).value) hhost
      cases hvalue

end Run

end Graft
