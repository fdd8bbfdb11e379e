import Graft.Proofs.Run.Atomicity
import Graft.Proofs.Run.Slots

/-!
How parameters are bound.

When the arguments of a call have found their slots, the parameters are bound in their order, each
to its argument or to its default. A default is evaluated where those before it are bound already,
and evaluating it may open frames, but it touches neither the frame of the call nor anything else
that was there. `Binds` says what is bound on the way, and to what.
-/

set_option autoImplicit false

namespace Graft

/-- The arguments do not suit the parameters. -/
inductive Misfit (params : List Param) (args : List Given) : Prop
  /-- An argument without a name stands behind a named one. -/
  | disordered {a b : Given} :
    [a, b].Sublist args → a.name.isSome = true → b.name = none → Misfit params args
  | surplus : params.length < Given.positional args → Misfit params args
  | unknown {g : Given} {name : String} :
    g ∈ args → g.name = some name → (∀ q ∈ params, q.name ≠ name) → Misfit params args
  /-- Two arguments are for one parameter. -/
  | twice : ¬ (positions params args).Nodup → Misfit params args
  /-- No argument is for a parameter without default. -/
  | missing {i : Nat} {q : Param} :
    params[i]? = some q → q.default = none → i ∉ positions params args → Misfit params args

/-- A parameter that has neither an argument nor a default. -/
def Lacks (slots : List (Param × Option Value)) : Prop :=
  ∃ q, (q, none) ∈ slots ∧ q.default = none

section

variable {params : List Param} {args args' : List Given}

/-- The arguments do not suit the parameters if one does not fit, or if a parameter lacks a
value. -/
theorem misfit_iff :
    Misfit params args ↔
      ¬ Fits params args ∨ Lacks (assigned params (placements params 0 args)) := by
  constructor
  · intro h
    cases h with
    | disordered hsublist hnamed hnone =>
      refine .inl fun h => ?_
      have hb := List.pairwise_iff_forall_sublist.mp h.ordered hsublist hnamed
      rw [hnone] at hb
      cases hb
    | surplus hroom => exact .inl fun h => Nat.not_lt.mpr h.room hroom
    | unknown hg hname hnone =>
      refine .inl fun h => ?_
      obtain ⟨q, hq, hqname⟩ := h.known _ hg _ hname
      exact hnone q hq hqname
    | twice htwice => exact .inl fun h => htwice h.once
    | @missing i q hq hdefault hfree =>
      refine .inr ⟨q, List.mem_iff_getElem?.mpr ⟨i, ?_⟩, hdefault⟩
      rw [getElem?_assigned, hq, Option.map_some, lookup_placements_eq_none_iff.mpr hfree]
  · rintro (h | ⟨q, hq, hdefault⟩)
    · by_contra hsuits
      refine h ⟨?ordered, ?room, ?known, ?once⟩
      case ordered =>
        rw [List.pairwise_iff_forall_sublist]
        intro a b hsublist hnamed
        by_contra hb
        exact hsuits (.disordered hsublist hnamed (Option.not_isSome_iff_eq_none.mp hb))
      case room => exact Nat.not_lt.mp fun hroom => hsuits (.surplus hroom)
      case known =>
        intro g hg name hname
        by_contra hnone
        exact hsuits (.unknown hg hname fun q hq hqname => hnone ⟨q, hq, hqname⟩)
      case once => exact Decidable.not_not.mp fun htwice => hsuits (.twice htwice)
    · obtain ⟨i, hi⟩ := List.mem_iff_getElem?.mp hq
      rw [getElem?_assigned, Option.map_eq_some_iff] at hi
      obtain ⟨q', hq', heq⟩ := hi
      obtain ⟨rfl, hfree⟩ := Prod.mk.inj heq
      exact .missing hq' hdefault (lookup_placements_eq_none_iff.mp hfree)

end

/-- The machine in which a name has been bound in the innermost frame of an environment. -/
def Machine.bound (m : Machine) (frame : Environment) (name : String) (v : Value) : Machine :=
  { m with frames := frame.declare m.frames name v }

theorem Machine.size_bound (m : Machine) (frame : Environment) (name : String) (v : Value) :
    (m.bound frame name v).frames.size = m.frames.size :=
  Frames.size_bind _ _ _ _

theorem Machine.declared_bound {m : Machine} {frame : Environment}
    (hframe : frame.innermost < m.frames.size) (name : String) (v : Value) :
    frame.declared (m.bound frame name v).frames =
      Table.insert (frame.declared m.frames) name v := by
  unfold Machine.bound Environment.declared Environment.declare
  rw [Frames.bindings_bind, if_pos ⟨rfl, hframe⟩]

namespace Run

/-- Parameters are bound in turn, from one machine to another, to these values: a parameter with an
argument to the argument, any other to what its default gives where those before it are bound. -/
inductive Binds (evaluate : Expr → Run Value) (frame : Environment) :
    List (Param × Option Value) → List (String × Value) → Machine → Machine → Prop
  | nil {m : Machine} : Binds evaluate frame [] [] m m
  | given {q : Param} {v : Value} {rest : List (Param × Option Value)}
    {entries : List (String × Value)} {m m' : Machine} :
    Binds evaluate frame rest entries (m.bound frame q.name v) m' →
    Binds evaluate frame ((q, some v) :: rest) ((q.name, v) :: entries) m m'
  | default {q : Param} {e : Expr} {v : Value} {rest : List (Param × Option Value)}
    {entries : List (String × Value)} {m m₁ m' : Machine} :
    q.default = some e → evaluate e m = .ok v m₁ →
    Binds evaluate frame rest entries (m₁.bound frame q.name v) m' →
    Binds evaluate frame ((q, none) :: rest) ((q.name, v) :: entries) m m'

/-- Binding parameters from a machine on comes to the evaluation of a default, on another
machine. -/
inductive Defaults (evaluate : Expr → Run Value) (frame : Environment)
    (slots : List (Param × Option Value)) (m : Machine) : Expr → Machine → Prop
  | mk {before rest : List (Param × Option Value)} {q : Param} {e : Expr}
    {entries : List (String × Value)} {m₁ : Machine} :
    slots = before ++ (q, none) :: rest → q.default = some e →
    Binds evaluate frame before entries m m₁ → Defaults evaluate frame slots m e m₁

section

variable {evaluate : Expr → Run Value} {callee : String} {frame : Environment} {loc : Coordinate}
  {slots : List (Param × Option Value)} {entries : List (String × Value)} {m m' : Machine}

/-- Behind a parameter with an argument, what comes up is what comes up from there on. -/
theorem defaults_given_iff {q : Param} {v : Value} {e : Expr} {m₁ : Machine} :
    Defaults evaluate frame ((q, some v) :: slots) m e m₁ ↔
      Defaults evaluate frame slots (m.bound frame q.name v) e m₁ := by
  constructor
  · rintro ⟨hslots, hdefault, hbinds⟩
    cases hbinds with
    | nil => cases hslots
    | default => cases hslots
    | given hbinds =>
      cases hslots
      exact .mk rfl hdefault hbinds
  · rintro ⟨rfl, hdefault, hbinds⟩
    exact .mk rfl hdefault hbinds.given

/-- A default comes up by itself, and behind it what comes up once it has been bound. -/
theorem defaults_default_iff {q : Param} {e : Expr} {m₁ : Machine} :
    Defaults evaluate frame ((q, none) :: slots) m e m₁ ↔
      (q.default = some e ∧ m₁ = m) ∨ ∃ e' v m', q.default = some e' ∧
        evaluate e' m = .ok v m' ∧
          Defaults evaluate frame slots (m'.bound frame q.name v) e m₁ := by
  constructor
  · rintro ⟨hslots, hdefault, hbinds⟩
    cases hbinds with
    | nil =>
      cases hslots
      exact .inl ⟨hdefault, rfl⟩
    | given => cases hslots
    | default hq hv hbinds =>
      cases hslots
      exact .inr ⟨_, _, _, hq, hv, .mk rfl hdefault hbinds⟩
  · rintro (⟨hdefault, rfl⟩ | ⟨e', v, m', hq, hv, rfl, hdefault, hbinds⟩)
    · exact .mk rfl hdefault .nil
    · exact .mk rfl hdefault (.default hq hv hbinds)

theorem not_defaults_nil {e : Expr} {m₁ : Machine} : ¬ Defaults evaluate frame [] m e m₁ := by
  rintro ⟨hslots, _, hbinds⟩
  cases hbinds <;> cases hslots

theorem bindSlots_given (evaluate : Expr → Run Value) (callee : String) (frame : Environment)
    (loc : Coordinate) (q : Param) (v : Value) (slots : List (Param × Option Value))
    (m : Machine) :
    bindSlots evaluate callee frame loc ((q, some v) :: slots) m =
      bindSlots evaluate callee frame loc slots (m.bound frame q.name v) := by
  rw [bindSlots]
  rfl

theorem bindSlots_default {q : Param} {e : Expr} {v : Value} {m₁ : Machine}
    (hq : q.default = some e) (hv : evaluate e m = .ok v m₁) :
    bindSlots evaluate callee frame loc ((q, none) :: slots) m =
      bindSlots evaluate callee frame loc slots (m₁.bound frame q.name v) := by
  obtain ⟨ploc, name, default⟩ := q
  obtain rfl : default = some e := hq
  show (evaluate e >>= fun v => declare frame name v >>= fun _ =>
    bindSlots evaluate callee frame loc slots) m = _
  rw [bind_ok hv]
  rfl

theorem bindSlots_missing {q : Param} (hq : q.default = none) :
    bindSlots evaluate callee frame loc ((q, none) :: slots) m =
      .error (.failed ⟨loc, .missingArgument callee q.name⟩) m := by
  obtain ⟨ploc, name, default⟩ := q
  obtain rfl : default = none := hq
  rfl

theorem lacks_cons_iff {q : Param} {filled : Option Value} :
    Lacks ((q, filled) :: slots) ↔ (filled = none ∧ q.default = none) ∨ Lacks slots := by
  constructor
  · rintro ⟨q', hmem, hdefault⟩
    rcases List.mem_cons.mp hmem with heq | hmem
    · obtain ⟨rfl, rfl⟩ := Prod.mk.inj heq
      exact .inl ⟨rfl, hdefault⟩
    · exact .inr ⟨q', hmem, hdefault⟩
  · rintro (⟨rfl, hdefault⟩ | ⟨q', hmem, hdefault⟩)
    · exact ⟨q, List.mem_cons_self, hdefault⟩
    · exact ⟨q', List.mem_cons_of_mem _ hmem, hdefault⟩

/-- Where no default fails, binding stops at the first parameter that lacks a value, or binds all
of them. -/
theorem bindSlots_cases (callee : String) (loc : Coordinate)
    (hdefaults : ∀ e m₁, Defaults evaluate frame slots m e m₁ → ∃ v m₂, evaluate e m₁ = .ok v m₂) :
    (Lacks slots → ∃ name m', bindSlots evaluate callee frame loc slots m =
      .error (.failed ⟨loc, .missingArgument callee name⟩) m') ∧
    (¬ Lacks slots → ∃ entries m', Binds evaluate frame slots entries m m' ∧
      bindSlots evaluate callee frame loc slots m = .ok () m') := by
  induction slots generalizing m with
  | nil =>
    constructor
    · rintro ⟨q, hq, _⟩
      cases hq
    · exact fun _ => ⟨[], m, .nil, rfl⟩
  | cons slot rest ih =>
    obtain ⟨q, filled⟩ := slot
    rw [lacks_cons_iff]
    cases filled with
    | some v =>
      rw [bindSlots_given]
      obtain ⟨hlacks, hbinds⟩ := ih fun e m₁ h => hdefaults e m₁ (defaults_given_iff.mpr h)
      constructor
      · rintro (⟨hfilled, _⟩ | h)
        · cases hfilled
        · exact hlacks h
      · intro h
        obtain ⟨entries, m', hrest, hrun⟩ := hbinds fun hrest => h (.inr hrest)
        exact ⟨_, m', hrest.given, hrun⟩
    | none =>
      cases hq : q.default with
      | none =>
        rw [bindSlots_missing hq]
        exact ⟨fun _ => ⟨_, _, rfl⟩, fun h => absurd (.inl ⟨rfl, rfl⟩) h⟩
      | some e =>
        obtain ⟨v, m₁, hv⟩ := hdefaults e m (.mk rfl hq .nil)
        rw [bindSlots_default hq hv]
        obtain ⟨hlacks, hbinds⟩ := ih fun e' m₂ h =>
          hdefaults e' m₂ (defaults_default_iff.mpr (.inr ⟨e, v, m₁, hq, hv, h⟩))
        constructor
        · rintro (⟨_, hnone⟩ | h)
          · cases hnone
          · exact hlacks h
        · intro h
          obtain ⟨entries, m', hrest, hrun⟩ := hbinds fun hrest => h (.inr hrest)
          exact ⟨_, m', .default hq hv hrest, hrun⟩

/-! ## Arguments -/

theorem bindArguments_of_fits {params : List Param} {args : List Given}
    (h : Fits params args) (evaluate : Expr → Run Value) (callee : String) (frame : Environment)
    (loc : Coordinate) :
    bindArguments evaluate callee params (args.map Given.argument) frame loc =
      bindSlots evaluate callee frame loc (assigned params (placements params 0 args)) := by
  unfold bindArguments
  rw [(Slots.fillAll_blank params callee args).1 h]
  rfl

theorem bindArguments_of_not_fits {params : List Param} {args : List Given}
    (h : ¬ Fits params args) (evaluate : Expr → Run Value) (callee : String) (frame : Environment)
    (loc : Coordinate) (m : Machine) :
    ∃ loc' cause, bindArguments evaluate callee params (args.map Given.argument) frame loc m =
      .error (.failed ⟨loc', cause⟩) m ∧ cause.trouble = .arity := by
  obtain ⟨loc', cause, hfill, harity⟩ := (Slots.fillAll_blank params callee args).2 h
  refine ⟨loc', cause, ?_, harity⟩
  have hplain : cause ≠ .operator .trap := by
    rintro rfl
    cases harity
  unfold bindArguments
  rw [hfill]
  show fail loc' cause m = _
  rw [fail, if_neg hplain]
  rfl

section

variable {params : List Param} {args args' : List Given}

/-- Where no default fails, binding ends in an error about the number of arguments exactly if the
arguments do not suit the parameters, and otherwise it binds all parameters. -/
theorem bindArguments_cases (callee : String) (loc : Coordinate)
    (hdefaults : Fits params args → ∀ e m₁,
      Defaults evaluate frame (assigned params (placements params 0 args)) m e m₁ →
      ∃ v m₂, evaluate e m₁ = .ok v m₂) :
    ((∃ loc' cause m', bindArguments evaluate callee params (args.map Given.argument) frame loc m =
        .error (.failed ⟨loc', cause⟩) m' ∧ cause.trouble = .arity) ↔ Misfit params args) ∧
    (¬ Misfit params args → ∃ entries m',
      Binds evaluate frame (assigned params (placements params 0 args)) entries m m' ∧
      bindArguments evaluate callee params (args.map Given.argument) frame loc m = .ok () m') := by
  by_cases hfits : Fits params args
  · obtain ⟨hlacks, hbinds⟩ := bindSlots_cases callee loc (hdefaults hfits)
    rw [bindArguments_of_fits hfits, misfit_iff, or_iff_right (not_not_intro hfits)]
    refine ⟨⟨?_, fun h => ?_⟩, hbinds⟩
    · rintro ⟨loc', cause, m', herror, _⟩
      by_contra h
      obtain ⟨_, m₁, _, hok⟩ := hbinds h
      rw [hok] at herror
      cases herror
    · obtain ⟨name, m', herror⟩ := hlacks h
      exact ⟨loc, _, m', herror, rfl⟩
  · obtain ⟨loc', cause, herror, harity⟩ :=
      bindArguments_of_not_fits hfits evaluate callee frame loc m
    have hmisfit : Misfit params args := misfit_iff.mpr (.inl hfits)
    exact ⟨iff_of_true ⟨loc', cause, m, herror, harity⟩ hmisfit, fun h => absurd hmisfit h⟩

/-- A binding that succeeds is the same with the named arguments in another order. -/
theorem bindArguments_ok_of_reorders (h : Reorders args args')
    (hok : bindArguments evaluate callee params (args.map Given.argument) frame loc m =
      .ok () m') :
    bindArguments evaluate callee params (args'.map Given.argument) frame loc m = .ok () m' := by
  by_cases hfits : Fits params args
  · rw [bindArguments_of_fits hfits] at hok
    rw [bindArguments_of_fits (h.fits_of_fits hfits), h.assigned_eq hfits]
    exact hok
  · obtain ⟨_, _, herror, _⟩ := bindArguments_of_not_fits hfits evaluate callee frame loc m
    rw [herror] at hok
    cases hok

end

/-! ## The frame -/

/-- **The frame of a call.** Where evaluating an expression touches no frame that was there, the
frame holds in the end what it held before, with the parameters entered in turn. -/
theorem Binds.declared {p : Provision} (hp : p.registry.FromDrafts) {levels : Nat} {ctx : Context}
    (hslots : Param.EveryIn (fun s => s.isFunctionLevel = true) (slots.map Prod.fst))
    (hm : m.FunctionsOnly) (hframe : frame.innermost < m.frames.size)
    (h : Binds (Run.evaluate p (enterWithin p levels) frame ctx) frame slots entries m m') :
    entries.map Prod.fst = slots.map (fun slot => slot.1.name) ∧
      frame.declared m'.frames =
        entries.foldl (fun table x => Table.insert table x.1 x.2) (frame.declared m.frames) := by
  induction h with
  | nil => exact ⟨rfl, rfl⟩
  | @given q v rest entries m m' _ ih =>
    obtain ⟨ploc, name, default⟩ := q
    obtain ⟨hnames, hdeclared⟩ := ih hslots.2 hm (by rw [Machine.size_bound]; exact hframe)
    refine ⟨congrArg _ hnames, ?_⟩
    rw [hdeclared, Machine.declared_bound hframe]
    rfl
  | @default q e v rest entries m m₁ m' hq hv _ ih =>
    obtain ⟨ploc, name, default⟩ := q
    obtain rfl : default = some e := hq
    -- The default has opened frames behind the ones that were there, and nothing else.
    have hextends := hm.extends_evaluate hp levels frame ctx hslots.1
    rw [after_ok hv] at hextends
    have hframe₁ : frame.innermost < m₁.frames.size := Nat.lt_of_lt_of_le hframe hextends.size
    have hsame : frame.declared m₁.frames = frame.declared m.frames :=
      hextends.bindings _ hframe
    have hm₁ : m₁.FunctionsOnly := by
      intro name f hf
      rw [hextends.functions] at hf
      exact hm name f hf
    obtain ⟨hnames, hdeclared⟩ := ih hslots.2 hm₁ (by rw [Machine.size_bound]; exact hframe₁)
    refine ⟨congrArg _ hnames, ?_⟩
    rw [hdeclared, Machine.declared_bound hframe₁, hsame]
    rfl

/-- **Argument binding is exact.** A positional argument is for the next parameter in order, and a
named one for the first parameter of its name. If no default fails that binding comes to, then it
ends in an error about the number of arguments exactly if the arguments do not suit the parameters,
and otherwise it binds each parameter in its turn, to its argument or to what its default gives
where those before it are bound. Where all functions are read from drafts, the frame then holds
just these bindings besides what it held before. And named arguments may change places among
themselves: the same binding succeeds, with the same outcome. -/
theorem bindArguments_exact (p : Provision) (levels : Nat) (ctx : Context) (callee : String)
    (params : List Param) (args : List Given) (frame : Environment) (loc : Coordinate)
    (m : Machine) :
    let evaluate := Run.evaluate p (enterWithin p levels) frame ctx
    let slots := assigned params (placements params 0 args)
    let run := fun args : List Given =>
      bindArguments evaluate callee params (args.map Given.argument) frame loc m
    ((Fits params args →
        ∀ e m₁, Defaults evaluate frame slots m e m₁ → ∃ v m₂, evaluate e m₁ = .ok v m₂) →
      ((∃ loc' cause m', run args = .error (.failed ⟨loc', cause⟩) m' ∧ cause.trouble = .arity) ↔
        Misfit params args) ∧
      (¬ Misfit params args →
        ∃ entries m', Binds evaluate frame slots entries m m' ∧ run args = .ok () m')) ∧
    (p.registry.FromDrafts → m.FunctionsOnly →
      Param.EveryIn (fun s => s.isFunctionLevel = true) params →
      frame.innermost < m.frames.size → ∀ entries m', Binds evaluate frame slots entries m m' →
        entries.map Prod.fst = params.map Param.name ∧
        frame.declared m'.frames =
          entries.foldl (fun table x => Table.insert table x.1 x.2) (frame.declared m.frames)) ∧
    ∀ args', Reorders args args' → ∀ m', run args' = .ok () m' ↔ run args = .ok () m' := by
  intro evaluate slots run
  refine ⟨fun hdefaults => ?_, fun hp hm hparams hframe entries m' hbinds => ?_,
    fun args' hreorders m' => ?_⟩
  · exact bindArguments_cases callee loc hdefaults
  · have hslots : slots.map Prod.fst = params := map_fst_assigned params _
    obtain ⟨hnames, hdeclared⟩ := hbinds.declared hp (hslots ▸ hparams) hm hframe
    refine ⟨?_, hdeclared⟩
    rw [hnames, ← hslots, List.map_map]
    rfl
  · exact ⟨bindArguments_ok_of_reorders hreorders.symm, bindArguments_ok_of_reorders hreorders⟩

end

/-- Of the parameters `x`, `z` and `y`, the last has the default `$x`. With `x` and `z` named in
either order, `y` is bound to what `x` is bound to, and with `x` named twice the call fails. -/
theorem bindArguments_exact_named :
    let p : Provision := ⟨.keeping, .standard⟩
    let start := Machine.start (Host.empty [])
    let params := Draft.readParams [.mk .origin "$x" none, .mk .origin "$z" none,
      .mk .origin "$y" (some (.variable .origin "$x"))]
    let run := fun args : List Given =>
      bindArguments (evaluate p (enterWithin p 2) start.1 default) "f" params
        (args.map Given.argument) start.1 .origin start.2
    let x : Given := ⟨.origin, some "x", .int 7⟩
    let z : Given := ⟨.origin, some "z", .bool true⟩
    (∃ (entries : List (String × Value)) (m' : Machine),
      run [x, z] = .ok () m' ∧ run [z, x] = .ok () m' ∧
      entries.map Prod.fst = ["x", "z", "y"] ∧
      start.1.declared m'.frames =
        entries.foldl (fun table x => Table.insert table x.1 x.2) [] ∧
      Table.get? (start.1.declared m'.frames) "y" = some (.int 7)) ∧
    ∃ loc cause m', run [x, z, x] = .error (.failed ⟨loc, cause⟩) m' ∧ cause.trouble = .arity := by
  intro p start params run x z
  obtain ⟨hexact, hframe, hperm⟩ :=
    bindArguments_exact p 2 default "f" params [x, z] start.1 .origin start.2
  obtain ⟨htwice, _, _⟩ :=
    bindArguments_exact p 2 default "f" params [x, z, x] start.1 .origin start.2
  constructor
  · -- The only default that is evaluated is that of `y`, where `x` and `z` are bound.
    have hslots : assigned params (placements params 0 [x, z]) =
        [(.mk .origin "x" none, some (.int 7)), (.mk .origin "z" none, some (.bool true)),
          (.mk .origin "y" (some (.variable .origin "x")), none)] := rfl
    have hdefaults : ∀ e m₁, Defaults (evaluate p (enterWithin p 2) start.1 default) start.1
        (assigned params (placements params 0 [x, z])) start.2 e m₁ →
        ∃ v m₂, evaluate p (enterWithin p 2) start.1 default e m₁ = .ok v m₂ := by
      intro e m₁ h
      rw [hslots, defaults_given_iff, defaults_given_iff, defaults_default_iff] at h
      rcases h with ⟨hq, rfl⟩ | ⟨_, _, _, _, _, h⟩
      · cases hq
        exact ⟨_, _, rfl⟩
      · exact absurd h not_defaults_nil
    obtain ⟨harity, hbinds⟩ := hexact fun _ => hdefaults
    have hsuits : ¬ Misfit params [x, z] := by
      intro h
      obtain ⟨_, _, _, herror, _⟩ := harity.mpr h
      cases herror
    obtain ⟨entries, m', hbinds, hrun⟩ := hbinds hsuits
    obtain ⟨hnames, hdeclared⟩ := hframe Registry.fromDrafts_keeping (fun _ _ hf => by cases hf)
      (Draft.everyIn_readParams (fun _ h => h) _) (by decide) entries m' hbinds
    have hpermuted := (hperm [z, x] ⟨rfl, rfl, .swap _ _ _⟩ m').mpr hrun
    obtain ⟨m₁, hrun₁, hvalue⟩ : ∃ m₁, run [x, z] = .ok () m₁ ∧
        Table.get? (start.1.declared m₁.frames) "y" = some (.int 7) := ⟨_, rfl, rfl⟩
    cases hrun.symm.trans hrun₁
    exact ⟨entries, m', hrun, hpermuted, hnames, hdeclared, hvalue⟩
  · have hmisfit : Misfit params [x, z, x] := .twice (by decide)
    exact (htwice fun hfits => absurd hfits.once (by decide)).1.mpr hmisfit

end Run

end Graft
