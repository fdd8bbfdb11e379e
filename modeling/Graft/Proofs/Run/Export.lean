import Graft.Proofs.Run.Confinement
import Graft.Proofs.Table.Order

/-!
What mixins hand over.

A mixin runs in a frame of its own, which holds its parameters and what its body declares. In the
end the frame is gone through, and everything but the parameters is declared in the block that
includes the mixin.

The frame is a table that other things than the body could have written to. So what the body
declares is said first without it: the declarations that a statement makes in its block are
listed along a run, in the order in which they are made. A declaration makes one, a `while` loop
makes those of its rounds, an inclusion makes those of the mixin but for its parameters, and
nothing else makes any, whatever it declares inside. Then the frame is shown to say the same:
what a name means there is what it was last declared as.
-/

set_option autoImplicit false

namespace Graft

/-! ## Declarations -/

/-- Declared names and their values, in order. A name may be declared more than once. -/
abbrev Declarations : Type := List (String × Value)

/-- The value that a name was declared with last. -/
def Declarations.last? (ds : Declarations) (name : String) : Option Value :=
  Table.get? ds.reverse name

namespace Declarations

theorem last?_singleton (declared : String) (v : Value) (name : String) :
    last? [(declared, v)] name = if declared = name then some v else none := rfl

/-- Later declarations go over earlier ones. -/
theorem last?_append (ds ds' : Declarations) (name : String) :
    last? (ds ++ ds') name = (last? ds' name).or (last? ds name) := by
  rw [last?, List.reverse_append, Table.get?_append]
  rfl

theorem last?_filter (q : String → Bool) (ds : Declarations) (name : String) :
    last? (ds.filter fun d => q d.1) name = if q name then last? ds name else none := by
  rw [last?, ← List.filter_reverse, Table.get?_filter]
  rfl

end Declarations

/-- What the entering of routines declares in their frames. -/
abbrev Declares : Type :=
  (callee : String) → Routine → List Argument → (frame : Environment) → Context → Coordinate →
    Machine → Declarations

namespace Run

variable {α β : Type}

/-- What is declared behind a computation, on the machine that it leaves. -/
def declaredBehind (x : Run α) (ds : α → Machine → Declarations) (m : Machine) : Declarations :=
  match x m with
  | .ok a m' => ds a m'
  | .error _ _ => []

/-- What a `while` loop declares in its block: what its body declares, round for round. -/
def declaredWhile (condition : Run Value) (body : Run Flow) (inside : Machine → Declarations) :
    (budget : Nat) → Machine → Declarations
  | 0 => fun _ => []
  | budget + 1 => declaredBehind condition fun v m =>
    if v.isTruthy then
      inside m ++ declaredBehind body (fun flow m' =>
        match flow with
        | .next => declaredWhile condition body inside budget m'
        | .returned _ => []) m
    else []

/-- The names that a list of parameters leaves to others. -/
def spared (params : List Param) (name : String) : Bool :=
  params.all fun q => q.name != name

mutual

/-- What a statement declares in its block. -/
def declaredBy (p : Provision) (enter : Enter) (inner : Declares) (env : Environment)
    (ctx : Context) : Statement → Machine → Declarations
  | .declare _ name e => declaredBehind (evaluate p enter env ctx e) fun v _ => [(name, v)]
  | .whileTrue _ condition body =>
    declaredWhile (evaluate p enter env ctx condition) (runBlock p enter env ctx body)
      (declaredIn p enter inner env ctx body) p.settings.limits.maxLoopIterations
  | .includeMixin loc name args => fun m =>
    match (Table.get? m.mixins name).or (p.registry.mixin? name) with
    | none => []
    | some mixin =>
      declaredBehind (evaluateArgs p enter env ctx args) (fun given m =>
        (inner name mixin given (env.child m.frames).1 ctx loc m.opened).filter fun d =>
          spared mixin.params d.1) m
  | _ => fun _ => []

/-- What statements declare in their block. -/
def declaredIn (p : Provision) (enter : Enter) (inner : Declares) (env : Environment)
    (ctx : Context) : List Statement → Machine → Declarations
  | [] => fun _ => []
  | s :: rest => fun m =>
    declaredBy p enter inner env ctx s m ++
      declaredBehind (runStatement p enter env ctx s) (fun flow m' =>
        match flow with
        | .next => declaredIn p enter inner env ctx rest m'
        | .returned _ => []) m

end

/-- What the body of a routine declares in the frame of the routine, behind the parameters. -/
def declaredInside (p : Provision) : (levels : Nat) → Declares
  | 0, _, _, _, _, _, _, _ => []
  | levels + 1, callee, routine, args, frame, ctx, loc, m =>
    declaredBehind
      (bindArguments (evaluate p (enterWithin p levels) frame ctx) callee routine.params args frame
        loc)
      (fun _ => declaredIn p (enterWithin p levels) (declaredInside p levels) frame ctx
        routine.body) m.deeper

end Run

/-! ## What a computation binds in a frame -/

/-- The terms of running statements that hold no imports, where they may bind in all frames but
one of those that are there. -/
def Terms.beside (p : Provision) (hp : p.registry.FromDrafts) (block : FrameId) : Terms :=
  .importFree p hp (block + 1) (fun id => id ≠ block) fun _ h => Nat.ne_of_gt h

/-- A frame in which no name is bound twice stays one. -/
theorem Evolves.distinct {t : Terms} {m m' : Machine} (h : Evolves t m m') {id : FrameId}
    (hid : (m.frames.bindings id).Distinct) : (m'.frames.bindings id).Distinct := by
  refine h.invariant (J := fun n => (n.frames.bindings id).Distinct) ?_ (fun _ hn => hn) hid
  intro n n' hchange hn
  cases hchange with
  | opened =>
    show (n.frames.fresh.2.bindings id).Distinct
    rw [Frames.bindings_fresh]
    exact hn
  | @bound own name v _ =>
    rw [Frames.bindings_bind]
    split
    · rename_i h
      obtain ⟨rfl, -⟩ := h
      exact hn.insert name v
    · exact hn
  | function | mixin | stage | skipped | ran | failed | yielded | edited => exact hn

section

variable {p : Provision} {hp : p.registry.FromDrafts} {block : FrameId} {m : Machine}

theorem Machine.Sound.importFree (h : m.Sound (.beside p hp block) fun _ => False) :
    m.ImportFree where
  functions := h.functions
  mixins := h.mixins ⟨.origin, "", [], rfl⟩

/-- The frame that is left alone is there. -/
theorem Machine.Sound.block_lt (h : m.Sound (.beside p hp block) fun _ => False) :
    block < m.frames.size :=
  h.base

theorem Machine.ImportFree.beside (hm : m.ImportFree) (hblock : block < m.frames.size) :
    m.Sound (.beside p hp block) fun _ => False :=
  hm.sound hblock

end

/-- The innermost frame of an environment of the store is there. -/
theorem Environment.Within.innermost_lt {env : Environment} {s : Frames} (h : env.Within s) :
    env.innermost < s.size := by
  refine h.bound _ ?_
  obtain ⟨global, inner⟩ := env
  cases inner with
  | nil => exact List.mem_cons_self
  | cons block outer => exact List.mem_cons_self

namespace Run

/-- Wherever a computation has an answer, it has bound in a frame what was declared there, over
what was bound before: the names in `Q` mean there what they were declared as last. -/
def Declaring {α : Type} (t : Terms) (block : FrameId) (Q : String → Prop) (x : Run α)
    (ds : Machine → Declarations) : Prop :=
  ∀ (m m' : Machine) (a : α), m.Sound t (fun _ => False) → x m = .ok a m' →
    m'.Sound t (fun _ => False) ∧ ∀ name, Q name →
      Table.get? (m'.frames.bindings block) name =
        ((ds m).last? name).or (Table.get? (m.frames.bindings block) name)

namespace Declaring

variable {α β : Type} {t : Terms} {block : FrameId} {Q : String → Prop} {x : Run α}

/-- Only names in `Q` are looked at. -/
theorem congr {ds ds' : Machine → Declarations} (h : Declaring t block Q x ds)
    (hds : ∀ m name, Q name → (ds m).last? name = (ds' m).last? name) :
    Declaring t block Q x ds' := by
  intro m m' a hm hx
  obtain ⟨hm', hget⟩ := h m m' a hm hx
  refine ⟨hm', fun name hname => ?_⟩
  rw [hget name hname, hds m name hname]

/-- What keeps to terms that do not offer a frame declares nothing there. -/
theorem of_makes (hblock : ¬ t.frames block) {R : α → Prop}
    (h : Makes t (fun _ => False) x R) : Declaring t block Q x fun _ => [] := by
  intro m m' a hm hx
  obtain ⟨hev, -⟩ := h.behind hm hx
  refine ⟨hm.evolves hev, fun name _ => ?_⟩
  rw [hev.bindings_eq hblock]
  rfl

theorem bind {f : α → Run β} {ds : Machine → Declarations} {ds' : α → Machine → Declarations}
    (hx : Declaring t block Q x ds) (hf : ∀ a, Declaring t block Q (f a) (ds' a)) :
    Declaring t block Q (x >>= f) fun m => ds m ++ declaredBehind x ds' m := by
  intro m m'' b hm hb
  obtain ⟨a, m', ha, hb⟩ := bind_eq_ok_iff.mp hb
  obtain ⟨hm', hfirst⟩ := hx m m' a hm ha
  obtain ⟨hm'', hrest⟩ := hf a m' m'' b hm' hb
  refine ⟨hm'', fun name hname => ?_⟩
  have hds : declaredBehind x ds' m = ds' a m' := by rw [declaredBehind, ha]
  rw [Declarations.last?_append, hds, Option.or_assoc, ← hfirst name hname]
  exact hrest name hname

/-- Behind what declares nothing, only what follows counts. -/
theorem behind {f : α → Run β} {ds : α → Machine → Declarations}
    (hx : Declaring t block Q x fun _ => []) (hf : ∀ a, Declaring t block Q (f a) (ds a)) :
    Declaring t block Q (x >>= f) (declaredBehind x ds) :=
  hx.bind hf

theorem pure (a : α) : Declaring t block Q (Pure.pure a : Run α) fun _ => [] := by
  intro m m' b hm h
  cases h
  exact ⟨hm, fun _ _ => rfl⟩

/-- An answer that is only changed into another changes nothing about what is declared. -/
theorem map {ds : Machine → Declarations} (hx : Declaring t block Q x ds) (f : α → β) :
    Declaring t block Q (x >>= fun a => Pure.pure (f a)) ds := by
  refine (hx.bind fun a => pure (f a)).congr fun m name _ => ?_
  rw [declaredBehind]
  cases x m <;> simp only [List.append_nil]

/-- What never has an answer may be said to declare anything. -/
theorem fail (loc : Coordinate) (cause : Cause) (ds : Machine → Declarations) :
    Declaring t block Q (Run.fail loc cause : Run α) ds := by
  intro m m' a _ h
  cases h

/-- A declaration binds its name in the innermost frame. -/
theorem declare {env : Environment} (henv : env.innermost = block) (hblock : block < t.base)
    (name : String) (v : Value) :
    Declaring t block Q (Run.declare env name v) fun _ => [(name, v)] := by
  subst henv
  intro m m' a hm h
  cases h
  refine ⟨⟨hm.functions, hm.mixins, ?_, hm.matched⟩, fun other _ => ?_⟩
  · show t.base ≤ (m.frames.bind env.innermost name v).size
    rw [Frames.size_bind]
    exact hm.base
  · show Table.get? ((m.frames.bind env.innermost name v).bindings env.innermost) other = _
    rw [Frames.bindings_bind, if_pos ⟨rfl, Nat.lt_of_lt_of_le hblock hm.base⟩, Table.get?_insert,
      Declarations.last?_singleton]
    split <;> rfl

/-- A loop declares what its rounds do. -/
theorem whileTrue (loc : Coordinate) (limit : Nat) {condition : Run Value} {body : Run Flow}
    {inside : Machine → Declarations} (hcondition : Declaring t block Q condition fun _ => [])
    (hbody : Declaring t block Q body inside) (budget : Nat) :
    Declaring t block Q (Run.whileTrue loc limit condition body budget)
      (declaredWhile condition body inside budget) := by
  induction budget with
  | zero =>
    -- Without rounds there is only the condition.
    have hzero : Declaring t block Q (Run.whileTrue loc limit condition body 0)
        (declaredBehind condition fun _ _ => []) := by
      refine hcondition.behind fun v => ?_
      by_cases hv : v.isTruthy = true
      · rw [if_pos hv]
        exact fail loc _ _
      · rw [if_neg hv]
        exact pure _
    refine hzero.congr fun m name _ => ?_
    rw [declaredBehind]
    cases condition m <;> rfl
  | succ budget ih =>
    refine hcondition.behind fun v => ?_
    by_cases hv : v.isTruthy = true
    · simp only [hv, if_true]
      refine hbody.bind fun flow => ?_
      cases flow with
      | next => exact ih
      | returned w => exact pure _
    · simp only [hv]
      exact pure _

/-- Inside a call the machine is one deeper, and that is all. -/
theorem withCall {limit : Nat} {loc : Coordinate} {ds : Machine → Declarations}
    (hx : Declaring t block Q x ds) :
    Declaring t block Q (Run.withCall limit loc x) fun m => ds m.deeper := by
  intro m m' a hm h
  by_cases hd : m.callDepth < limit
  · rw [withCall_of_lt loc x hd] at h
    cases hr : x m.deeper with
    | ok b m'' =>
      rw [hr] at h
      cases h
      obtain ⟨hm'', hget⟩ := hx m.deeper m'' a (hm.atDepth _) hr
      exact ⟨hm''.atDepth _, hget⟩
    | error e m'' =>
      rw [hr] at h
      cases h
  · have hstop : Run.withCall limit loc x m = Run.fail loc (.callLimit limit) m :=
      if_pos (Nat.not_lt.mp hd)
    rw [hstop] at h
    cases h

/-- The binding of parameters declares none of the names that the parameters leave. -/
theorem bindSlots {evaluate : Expr → Run Value} (callee : String) {frame : Environment}
    (hframe : frame.innermost = block) (hblock : block < t.base) (loc : Coordinate)
    (h : ∀ e : Expr, e.Every t.statements → Declaring t block Q (evaluate e) fun _ => []) :
    ∀ slots : List (Param × Option Value), Param.EveryIn t.statements (slots.map Prod.fst) →
    (∀ q ∈ slots.map Prod.fst, ∀ name, Q name → q.name ≠ name) →
    Declaring t block Q (Run.bindSlots evaluate callee frame loc slots) fun _ => []
  | [], _, _ => pure ()
  | (⟨ploc, name, default⟩, filled) :: rest, hslots, hnames => by
    obtain ⟨hname, hothers⟩ := List.forall_mem_cons.mp hnames
    have hrest := bindSlots callee hframe hblock loc h rest hslots.2 hothers
    have hbind : ∀ v, Declaring t block Q (Run.declare frame name v >>= fun _ =>
        Run.bindSlots evaluate callee frame loc rest) fun _ => [] := by
      intro v
      refine ((declare hframe hblock name v).bind fun _ => hrest).congr fun m other hother => ?_
      -- The parameter is not one of the names that are looked at.
      exact if_neg (hname other hother)
    cases filled with
    | some v => exact hbind v
    | none =>
      cases default with
      | some e =>
        refine ((h e hslots.1).behind hbind).congr fun m other _ => ?_
        rw [declaredBehind]
        cases evaluate e m <;> rfl
      | none => exact fail _ _ _

end Declaring

/-! ## What is handed over -/

/-- Handing over binds all entries but those of the parameters. -/
theorem exportBindings_eq (params : List Param) (env : Environment) (table : Table Value)
    (m : Machine) :
    exportBindings params env table m = .ok ()
      { m with
        frames := m.frames.bindAll env.innermost (table.filter fun e => spared params e.1) } := by
  induction table generalizing m with
  | nil => rfl
  | cons e rest ih =>
    obtain ⟨name, v⟩ := e
    rw [exportBindings, List.filter_cons]
    by_cases hname : (params.all fun q => q.name != name) = true
    · have hspared : spared params name = true := hname
      rw [if_pos hname, if_pos hspared]
      exact ih { m with frames := env.declare m.frames name v }
    · have hspared : ¬ spared params name = true := hname
      rw [if_neg hname, if_neg hspared]
      exact ih m

/-- In what order the entries of a frame are handed over makes no difference to what any name
means. -/
theorem exportBindings_perm (params : List Param) {env : Environment} {m : Machine}
    (henv : env.innermost < m.frames.size) {table listed : Table Value} (htable : table.Distinct)
    (hperm : listed.Perm table) {m' : Machine}
    (h : exportBindings params env table m = .ok () m') :
    ∃ m'', exportBindings params env listed m = .ok () m'' ∧
      { m'' with frames := m'.frames } = m' ∧
      ∀ id name, Table.get? (m''.frames.bindings id) name =
        Table.get? (m'.frames.bindings id) name := by
  rw [exportBindings_eq] at h
  cases h
  refine ⟨_, exportBindings_eq params env listed m, rfl, fun id name => ?_⟩
  have hfiltered := hperm.filter fun e => spared params e.1
  have hdistinct : Table.Distinct (listed.filter fun e => spared params e.1) :=
    (hfiltered.map Prod.fst).nodup_iff.mpr (htable.filter _)
  by_cases hid : id = env.innermost
  · subst hid
    rw [Frames.get?_bindAll henv hdistinct, Frames.get?_bindAll henv (htable.filter _),
      (htable.filter _).get?_of_perm hfiltered]
  · rw [Frames.bindings_bindAll_of_ne _ hid, Frames.bindings_bindAll_of_ne _ hid]

/-- An inclusion that succeeds has entered the mixin in a new frame, and has handed over what is
bound there in the end. -/
theorem of_includeMixin {enter : Enter} {env : Environment} {ctx : Context} {loc : Coordinate}
    {name : String} {mixin : Routine} {given : List Argument} {m m' : Machine}
    (h : includeMixin enter env ctx loc name mixin given m = .ok () m') :
    ∃ flow m₂, enter name mixin given (env.child m.frames).1 ctx loc m.opened = .ok flow m₂ ∧
      exportBindings mixin.params env ((env.child m.frames).1.declared m₂.frames) m₂ =
        .ok () m' := by
  obtain ⟨frame, m₁, hchild, h⟩ := bind_eq_ok_iff.mp h
  cases hchild
  obtain ⟨flow, m₂, henter, h⟩ := bind_eq_ok_iff.mp h
  exact ⟨flow, m₂, henter, h⟩

/-- So does the statement, behind its arguments. -/
theorem of_runStatement_includeMixin {p : Provision} {enter : Enter} {env : Environment}
    {ctx : Context} {loc : Coordinate} {name : String} {args : List Arg} {m m' : Machine}
    {flow : Flow}
    (h : runStatement p enter env ctx (.includeMixin loc name args) m = .ok flow m') :
    flow = .next ∧ ∃ mixin given m₁,
      (Table.get? m.mixins name).or (p.registry.mixin? name) = some mixin ∧
      evaluateArgs p enter env ctx args m = .ok given m₁ ∧
      includeMixin enter env ctx loc name mixin given m₁ = .ok () m' := by
  rw [runStatement, get_bind] at h
  cases hlookup : (Table.get? m.mixins name).or (p.registry.mixin? name) with
  | none =>
    rw [hlookup] at h
    cases h
  | some mixin =>
    rw [hlookup] at h
    obtain ⟨given, m₁, hargs, h⟩ := bind_eq_ok_iff.mp h
    obtain ⟨_, m₂, hinclude, h⟩ := bind_eq_ok_iff.mp h
    cases h
    exact ⟨rfl, mixin, given, m₁, rfl, hargs, hinclude⟩

/-- What such a statement declares is what the mixin does, but for its parameters. -/
theorem declaredBy_includeMixin {p : Provision} {enter : Enter} (inner : Declares)
    {env : Environment} {ctx : Context} {name : String} {args : List Arg} {mixin : Routine}
    {given : List Argument} {m m₁ : Machine}
    (hlookup : (Table.get? m.mixins name).or (p.registry.mixin? name) = some mixin)
    (hgiven : evaluateArgs p enter env ctx args m = .ok given m₁) (loc : Coordinate) :
    declaredBy p enter inner env ctx (.includeMixin loc name args) m =
      (inner name mixin given (env.child m₁.frames).1 ctx loc m₁.opened).filter fun d =>
        spared mixin.params d.1 := by
  simp only [declaredBy, hlookup, declaredBehind, hgiven]

/-! ## Runs -/

/-- Routines declare in their frames what is said of them: of the names that are no parameters,
what the body declares. -/
def DeclaresInside {p : Provision} (hp : p.registry.FromDrafts) (enter : Enter)
    (inner : Declares) : Prop :=
  ∀ (callee : String) {routine : Routine} (args : List Argument) (frame : Environment)
    (ctx : Context) (loc : Coordinate), (routine.Every fun s => s.isImport = false) →
    Declaring (.beside p hp frame.innermost) frame.innermost
      (fun name => spared routine.params name = true) (enter callee routine args frame ctx loc)
      (inner callee routine args frame ctx loc)

section

variable {p : Provision} {hp : p.registry.FromDrafts} {enter : Enter} {inner : Declares}
  {env : Environment} {Q : String → Prop}

/-- The frame of a mixin that has been entered in a block: nothing is bound there twice, what is
bound are the parameters and what the body declares, and the frame of the block is as before. -/
theorem mixin_entered (hinner : DeclaresInside hp enter inner)
    (he : enter.Keeps (.beside p hp env.innermost)) {mixin : Routine}
    (hmixin : mixin.Every fun s => s.isImport = false) {name : String} {given : List Argument}
    {ctx : Context} {loc : Coordinate} {m m₂ : Machine} {flow : Flow}
    (hm : m.Sound (.beside p hp env.innermost) fun _ => False)
    (h : enter name mixin given (env.child m.frames).1 ctx loc m.opened = .ok flow m₂) :
    m₂.Sound (.beside p hp env.innermost) (fun _ => False) ∧
      m₂.frames.bindings env.innermost = m.frames.bindings env.innermost ∧
      (m₂.frames.bindings m.frames.size).Distinct ∧
      ∀ x, spared mixin.params x = true →
        Table.get? (m₂.frames.bindings m.frames.size) x =
          (inner name mixin given (env.child m.frames).1 ctx loc m.opened).last? x := by
  have hempty : m.opened.frames.bindings m.frames.size = [] := m.frames.bindings_fresh_self
  have hopened : m.opened.Sound (.beside p hp env.innermost) fun _ => False := hm.change .opened
  -- Seen from the block, the mixin binds in frames of its own.
  have hne : (Terms.beside p hp env.innermost).frames (env.child m.frames).1.innermost :=
    Nat.ne_of_gt hm.block_lt
  obtain ⟨hev, -⟩ := (he name given loc hmixin hne (Context.admitted_importFree ctx)).behind
    hopened h
  have hblock : m₂.frames.bindings env.innermost = m.frames.bindings env.innermost :=
    (hev.bindings_eq fun hid => hid rfl).trans (Frames.bindings_fresh _ _)
  have hdistinct : (m₂.frames.bindings m.frames.size).Distinct := by
    refine hev.distinct ?_
    rw [hempty]
    exact List.nodup_nil
  -- Seen from its own frame, it binds the parameters and what its body declares.
  have hlt : m.frames.size < m.opened.frames.size := m.frames.size_lt_fresh
  have hown : m.opened.Sound (.beside p hp m.frames.size) fun _ => False :=
    hopened.importFree.beside hlt
  obtain ⟨-, hget⟩ := hinner name given (env.child m.frames).1 ctx loc hmixin m.opened m₂ flow
    hown h
  refine ⟨hopened.evolves hev, hblock, hdistinct, fun x hx => ?_⟩
  have hbound := hget x hx
  change Table.get? (m₂.frames.bindings m.frames.size) x =
    Option.or _ (Table.get? (m.opened.frames.bindings m.frames.size) x) at hbound
  rw [hbound, hempty, Table.get?_nil, Option.or_none]

/-- An inclusion declares what the mixin does, but for its parameters. -/
theorem declaring_includeMixin (hinner : DeclaresInside hp enter inner)
    (he : enter.Keeps (.beside p hp env.innermost)) {mixin : Routine}
    (hmixin : mixin.Every fun s => s.isImport = false) (name : String) (given : List Argument)
    (ctx : Context) (loc : Coordinate) :
    Declaring (.beside p hp env.innermost) env.innermost Q
      (includeMixin enter env ctx loc name mixin given) fun m =>
        (inner name mixin given (env.child m.frames).1 ctx loc m.opened).filter fun d =>
          spared mixin.params d.1 := by
  intro m m' _ hm h
  obtain ⟨flow, m₂, henter, hexport⟩ := of_includeMixin h
  obtain ⟨hm₂, hblock, hdistinct, hget⟩ := mixin_entered hinner he hmixin hm henter
  rw [exportBindings_eq] at hexport
  cases hexport
  refine ⟨⟨hm₂.functions, hm₂.mixins, ?_, hm₂.matched⟩, fun x _ => ?_⟩
  · exact Nat.le_trans hm₂.base (Frames.grows_bindAll _ _ _).size
  · change Table.get? ((m₂.frames.bindAll env.innermost
      ((m₂.frames.bindings m.frames.size).filter fun e => spared mixin.params e.1)).bindings
        env.innermost) x = _
    rw [Frames.get?_bindAll hm₂.block_lt (hdistinct.filter _), Table.get?_filter,
      Declarations.last?_filter, hblock]
    by_cases hx : spared mixin.params x = true
    · rw [if_pos hx, if_pos hx, hget x hx]
    · rw [if_neg hx, if_neg hx]

/-- What is evaluated in a block binds nothing there. -/
theorem Declaring.evaluate {levels : Nat} (ctx : Context) {e : Expr}
    (h : e.Every fun s => s.isImport = false) :
    Declaring (.beside p hp env.innermost) env.innermost Q
      (Run.evaluate p (enterWithin p levels) env ctx e) fun _ => [] :=
  .of_makes (fun hid => hid rfl) (Makes.evaluate
    (enterWithin_keeps (.beside p hp env.innermost) levels) env (Context.admitted_importFree ctx) e
    h)

theorem Declaring.evaluateArgs {levels : Nat} (ctx : Context) {args : List Arg}
    (h : Arg.EveryIn (fun s => s.isImport = false) args) :
    Declaring (.beside p hp env.innermost) env.innermost Q
      (Run.evaluateArgs p (enterWithin p levels) env ctx args) fun _ => [] :=
  .of_makes (fun hid => hid rfl) (Makes.evaluateArgs
    (enterWithin_keeps (.beside p hp env.innermost) levels) env (Context.admitted_importFree ctx)
    args h)

/-- A statement that binds nothing in its block declares nothing there. -/
theorem declaring_of_bindsInBlock (levels : Nat) (ctx : Context) {s : Statement}
    (h : s.Every fun s => s.isImport = false) (hs : s.bindsInBlock = false) :
    Declaring (.beside p hp env.innermost) env.innermost Q
      (runStatement p (enterWithin p levels) env ctx s) fun _ => [] := by
  have hown : s.bindsInBlock = true → (Terms.beside p hp env.innermost).frames env.innermost := by
    intro hbinds
    rw [hs] at hbinds
    cases hbinds
  exact .of_makes (fun hid => hid rfl) (Makes.runStatement
    (enterWithin_keeps (.beside p hp env.innermost) levels) s h hown
    (Context.admitted_importFree ctx))

mutual

/-- **Declarations of a statement.** A statement binds in its block what it declares there. -/
theorem declaring_runStatement {levels : Nat}
    (hinner : DeclaresInside hp (enterWithin p levels) inner) (ctx : Context) :
    ∀ s : Statement, (s.Every fun s => s.isImport = false) →
    Declaring (.beside p hp env.innermost) env.innermost Q
      (runStatement p (enterWithin p levels) env ctx s)
      (declaredBy p (enterWithin p levels) inner env ctx s)
  | .declare _ name e, hs => (Declaring.evaluate ctx hs.2).behind fun v => by
    have hdeclare : Declaring (.beside p hp env.innermost) env.innermost Q (declare env name v)
        fun _ => [(name, v)] := .declare rfl (Nat.lt_succ_self _) name v
    exact hdeclare.map fun _ => Flow.next
  | .whileTrue loc condition body, hs =>
    .whileTrue loc _ (Declaring.evaluate ctx hs.2.1) (declaring_runBlock hinner ctx body hs.2.2) _
  | .includeMixin loc name args, hs => by
    intro m m' flow hm h
    have he : Enter.Keeps (.beside p hp env.innermost) (enterWithin p levels) :=
      enterWithin_keeps (.beside p hp env.innermost) levels
    obtain ⟨-, mixin, given, m₁, hlookup, hargs, hinclude⟩ := of_runStatement_includeMixin h
    have hmixin : mixin.Every fun s => s.isImport = false :=
      Makes.every_of_mixin (t := .beside p hp env.innermost) ⟨loc, name, args, rfl⟩ hm hlookup
    -- The arguments declare nothing, and the rest begins on the machine behind them.
    obtain ⟨hm₁, hbefore⟩ := Declaring.evaluateArgs ctx hs.2 m m₁ given hm hargs
    obtain ⟨hm', hget⟩ := declaring_includeMixin hinner he hmixin name given ctx loc m₁ m' () hm₁
      hinclude
    refine ⟨hm', fun x hx => ?_⟩
    rw [declaredBy_includeMixin inner hlookup hargs, hget x hx, hbefore x hx]
    rfl
  -- Everything else binds in frames of its own, or not at all.
  | .conditional .., hs | .ret .., hs | .forRange .., hs | .forEach .., hs | .set .., hs
  | .delete .., hs | .merge .., hs | .field .., hs | .selection .., hs | .expression .., hs
  | .importLibrary .., hs | .stage .., hs | .function .., hs | .mixin .., hs | .error .., hs =>
    declaring_of_bindsInBlock levels ctx hs rfl

/-- **Declarations of a block.** Statements in turn bind in their block what they declare there. -/
theorem declaring_runBlock {levels : Nat}
    (hinner : DeclaresInside hp (enterWithin p levels) inner) (ctx : Context) :
    ∀ body : List Statement, Statement.EveryIn (fun s => s.isImport = false) body →
    Declaring (.beside p hp env.innermost) env.innermost Q
      (runBlock p (enterWithin p levels) env ctx body)
      (declaredIn p (enterWithin p levels) inner env ctx body)
  | [], _ => .pure _
  | s :: rest, hbody => (declaring_runStatement hinner ctx s hbody.1).bind fun flow => by
    cases flow with
    | next => exact declaring_runBlock hinner ctx rest hbody.2
    | returned v => exact .pure _

end

/-- Binding the parameters declares none of the names that they leave to others. -/
theorem Declaring.bindArguments {levels : Nat} (ctx : Context) (callee : String)
    {params : List Param} (h : Param.EveryIn (fun s => s.isImport = false) params)
    (args : List Argument) (loc : Coordinate) :
    Declaring (.beside p hp env.innermost) env.innermost (fun name => spared params name = true)
      (Run.bindArguments (Run.evaluate p (enterWithin p levels) env ctx) callee params args env loc)
      fun _ => [] := by
  unfold Run.bindArguments
  cases hfill : (Slots.blank params).fillAll callee args with
  | error e => exact .fail _ _ _
  | ok slots =>
    have hparams : slots.filled.map Prod.fst = params := by
      rw [Slots.params_of_fillAll hfill, Slots.params_blank]
    refine .bindSlots callee rfl (Nat.lt_succ_self _) loc (fun e he => .evaluate ctx he)
      slots.filled ?_ fun q hq name hname => ?_
    · rw [hparams]
      exact h
    · rw [hparams] at hq
      exact bne_iff_ne.mp (List.all_eq_true.mp hname q hq)

end

/-- **Declarations of a routine.** What the body of a routine declares is what is bound in its frame
in the end, parameters aside. -/
theorem declaresInside_enterWithin {p : Provision} (hp : p.registry.FromDrafts) :
    ∀ levels : Nat, DeclaresInside hp (enterWithin p levels) (declaredInside p levels)
  | 0 => by
    intro callee routine args frame ctx loc _ m m' flow _ h
    cases h
  | levels + 1 => by
    intro callee routine args frame ctx loc hroutine
    exact .withCall ((Declaring.bindArguments ctx callee hroutine.params args loc).behind fun _ =>
      declaring_runBlock (declaresInside_enterWithin hp levels) ctx routine.body hroutine.body)

/-- Of the frames that were there before, a statement changes at most the innermost one of its
environment. -/
theorem runStatement_bindings_eq {p : Provision} (hp : p.registry.FromDrafts) {m m' : Machine}
    (hm : m.ImportFree) (levels : Nat) {env : Environment} {ctx : Context} {s : Statement}
    (hs : s.Every fun s => s.isImport = false)
    (h : runStatement p (enterWithin p levels) env ctx s m = .ok .next m') {id : FrameId}
    (hid : id < m.frames.size) (hne : id ≠ env.innermost) :
    m'.frames.bindings id = m.frames.bindings id := by
  -- It is a block of one statement.
  have hrun : runBlock p (enterWithin p levels) env ctx [s] m = .ok .next m' := by
    rw [runBlock, bind_ok h]
    rfl
  have hbody : Statement.EveryIn (fun s => s.isImport = false) [s] := ⟨hs, trivial⟩
  have hframe := runBlock_bindings_eq hp hm levels env ctx hbody hid hne
  rw [after_ok hrun] at hframe
  exact hframe

/-- **Mixins hand over what they declare.** At whatever machine an execution arrives, in every
block and context: when the inclusion of a mixin succeeds, a name means in the frame of the block
what the body of the mixin has declared it as last, and what it meant there before if the body has
not declared it or it is a parameter of the mixin. Every other frame that was there before is as
it was. It makes no difference in what order the entries of the mixin's frame are handed over. -/
theorem runStatement_includeMixin_exports {p : Provision} (hp : p.registry.FromDrafts)
    {m m' : Machine} (hm : Reachable p m) (levels : Nat) {env : Environment}
    (henv : env.Within m.frames) (ctx : Context) (loc : Coordinate) (name : String)
    (args : List Draft.Arg) {flow : Flow}
    (h : runStatement p (enterWithin p levels) env ctx
      (Draft.BlockStatement.includeMixin loc name args).read m = .ok flow m') :
    ∃ mixin given m₁ bodyFlow m₂,
      (Table.get? m.mixins (nameOf name)).or (p.registry.mixin? (nameOf name)) = some mixin ∧
      evaluateArgs p (enterWithin p levels) env ctx (Draft.readArgs args) m = .ok given m₁ ∧
      let frame := (env.child m₁.frames).1
      enterWithin p levels (nameOf name) mixin given frame ctx loc m₁.opened = .ok bodyFlow m₂ ∧
      exportBindings mixin.params env (frame.declared m₂.frames) m₂ = .ok () m' ∧
      (∀ x, Table.get? (m'.frames.bindings env.innermost) x =
        if mixin.params.all fun q => q.name != x then
          ((declaredInside p levels (nameOf name) mixin given frame ctx loc m₁.opened).last? x).or
            (Table.get? (m.frames.bindings env.innermost) x)
        else Table.get? (m.frames.bindings env.innermost) x) ∧
      (∀ id, id < m.frames.size → id ≠ env.innermost →
        m'.frames.bindings id = m.frames.bindings id) ∧
      ∀ listed, listed.Perm (frame.declared m₂.frames) →
        ∃ m'', exportBindings mixin.params env listed m₂ = .ok () m'' ∧
          { m'' with frames := m'.frames } = m' ∧
          ∀ id x, Table.get? (m''.frames.bindings id) x = Table.get? (m'.frames.bindings id) x := by
  have hfree := hm.importFree hp
  have hargs : Arg.EveryIn (fun s => s.isImport = false) (Draft.readArgs args) :=
    Draft.everyIn_readArgs (fun _ hs => Statement.isImport_of_isFunctionLevel hs) args
  have hs : (Draft.BlockStatement.includeMixin loc name args).read.Every
      fun s => s.isImport = false := ⟨rfl, hargs⟩
  have hsound : m.Sound (.beside p hp env.innermost) fun _ => False :=
    hfree.beside henv.innermost_lt
  have hinner := declaresInside_enterWithin hp levels
  obtain ⟨rfl, mixin, given, m₁, hlookup, hgiven, hinclude⟩ := of_runStatement_includeMixin h
  obtain ⟨bodyFlow, m₂, henter, hexport⟩ := of_includeMixin hinclude
  -- The frame of the mixin is a table, whose entries can be listed in any order.
  have hmixin : mixin.Every fun s => s.isImport = false :=
    Makes.every_of_mixin (t := .beside p hp env.innermost) ⟨loc, nameOf name, [], rfl⟩ hsound
      hlookup
  obtain ⟨hm₁, -⟩ := Declaring.evaluateArgs (Q := fun _ => True) ctx hargs m m₁ given hsound hgiven
  obtain ⟨hm₂, -, hdistinct, -⟩ := mixin_entered hinner
    (enterWithin_keeps (.beside p hp env.innermost) levels) hmixin hm₁ henter
  refine ⟨mixin, given, m₁, bodyFlow, m₂, hlookup, hgiven, henter, hexport, fun x => ?_,
    fun id hid hne => ?_,
    fun listed hperm => exportBindings_perm mixin.params hm₂.block_lt hdistinct hperm hexport⟩
  · obtain ⟨-, hget⟩ := declaring_runStatement (Q := fun _ => True) hinner ctx _ hs m m' .next
      hsound h
    rw [hget x trivial, Draft.BlockStatement.read, declaredBy_includeMixin _ hlookup hgiven,
      Declarations.last?_filter]
    change (if spared mixin.params x = true then _ else none).or _ =
      if spared mixin.params x = true then _ else _
    by_cases hparams : spared mixin.params x = true
    · rw [if_pos hparams, if_pos hparams]
    · rw [if_neg hparams, if_neg hparams, Option.none_or]
  · exact runStatement_bindings_eq hp hfree levels hs h hid hne

end Run

/-- A registry with two mixins. The mixin `inner` declares its parameter `a` again, and `b`. The
mixin `outer` declares its parameter `n` again, includes `inner`, declares `a` as what `b` is then,
and declares `c` in a branch. -/
def Registry.nesting : Registry :=
  let no : Draft.Expr := .null .origin
  let yes : Draft.Expr := .boolean .origin true
  let inner : List Draft.BlockStatement := [.declare .origin "$a" no, .declare .origin "$b" yes]
  let outer : List Draft.BlockStatement :=
    [.declare .origin "$n" no, .includeMixin .origin "inner" [.mk .origin none yes],
      .declare .origin "$a" (.variable .origin "$b"),
      .conditional .origin yes [.declare .origin "$c" yes] [] none]
  ⟨[], [], [("inner", ⟨Draft.readParams [.mk .origin "$a" none], Draft.readBlock inner⟩),
    ("outer", ⟨Draft.readParams [.mk .origin "$n" none], Draft.readBlock outer⟩)], [], []⟩

theorem Registry.fromDrafts_nesting : Registry.nesting.FromDrafts where
  functions hf := by cases hf
  mixins {name f} hf := by
    simp only [Registry.mixin?, Registry.nesting, Table.get?] at hf
    split at hf
    · exact ⟨_, _, (Option.some.inj hf).symm⟩
    · split at hf
      · exact ⟨_, _, (Option.some.inj hf).symm⟩
      · cases hf
  libraries hf := by cases hf

namespace Run

/-- In a block where `n` is `true`, the inclusion `outer(false)` leaves `n` alone, declares `a` and
`b` and does not declare `c`. -/
theorem runStatement_includeMixin_exports_nested :
    let p : Provision := ⟨.nesting, .standard⟩
    let d : Draft := ⟨.origin, [.conditional .origin (.boolean .origin true)
      [.declare .origin "$n" (.boolean .origin true)] [] none]⟩
    let m := (Moment.start p (Patch.ofDraft d) (Host.empty [])).after p
    let inclusion := Draft.BlockStatement.includeMixin .origin "outer"
      [.mk .origin none (.boolean .origin false)]
    let run := runStatement p (enterWithin p 3) ⟨0, [1]⟩ default inclusion.read
    let m' := run.after m
    let means (name : String) := Table.get? (m'.frames.bindings 1) name
    m'.frames.bindings 0 = m.frames.bindings 0 ∧
      means "n" = Table.get? (m.frames.bindings 1) "n" ∧
      (means "n").map Value.isTruthy = some true ∧ (means "a").map Value.isTruthy = some true ∧
      (means "b").map Value.isTruthy = some true ∧ (means "c").isNone = true := by
  intro p d m inclusion run m' means
  have hm : Reachable p m := ⟨d, Host.empty [], _, .refl, .inr rfl⟩
  have hsize : m.frames.size = 2 := rfl
  have henv : Environment.Within ⟨0, [1]⟩ m.frames := by
    refine ⟨by decide, ?_⟩
    rw [hsize]
    decide
  have hrun : ∃ flow, run m = .ok flow m' := by
    have hanswer : (run.run' m).isSome = true := by decide +kernel
    cases h : run m with
    | ok flow m'' => exact ⟨flow, congrArg (EStateM.Result.ok flow) (after_ok h).symm⟩
    | error e m'' =>
      delta EStateM.run' EStateM.run at hanswer
      rw [h] at hanswer
      cases hanswer
  obtain ⟨flow, hrun⟩ := hrun
  obtain ⟨mixin, given, m₁, bodyFlow, m₂, hlookup, -, -, -, hmeans, hothers, -⟩ :=
    runStatement_includeMixin_exports Registry.fromDrafts_nesting hm 3 henv default .origin "outer"
      _ hrun
  cases hlookup
  have hglobal : 0 < m.frames.size := by
    rw [hsize]
    decide
  refine ⟨hothers 0 hglobal (by decide), (hmeans "n").trans (if_neg (by decide)), ?_, ?_, ?_, ?_⟩
  · decide +kernel
  · decide +kernel
  · decide +kernel
  · decide +kernel

end Run

end Graft
