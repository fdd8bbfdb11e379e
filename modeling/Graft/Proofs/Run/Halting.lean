import Graft.Proofs.Run.Moment

/-!
Halts and what becomes of them.

Nothing catches a halt. A computation in two parts halts exactly if its first part does, or if
the first part has an answer and the second part halts. So whatever halts while a part is run
takes the part with it, and a halt at any moment of an execution is a halt of the execution.
-/

set_option autoImplicit false

namespace Graft

variable {α β : Type}

/-! ## Computations that halt -/

namespace Run

/-- A computation comes to no answer on a machine. -/
def HaltsOn (e : Halt) (x : Run α) (m : Machine) : Prop :=
  ∃ m', x m = .error e m'

namespace HaltsOn

variable {e : Halt} {x : Run α} {f : α → Run β} {m m' : Machine} {a : α}

/-- A computation in two parts halts if its first part does, or behind an answer of it. -/
theorem bind_iff :
    HaltsOn e (x >>= f) m ↔
      HaltsOn e x m ∨ ∃ a m', x m = .ok a m' ∧ HaltsOn e (f a) m' := by
  cases hx : x m with
  | ok a m' =>
    rw [HaltsOn, bind_ok hx]
    constructor
    · exact fun h => .inr ⟨a, m', rfl, h⟩
    · rintro (⟨m'', h⟩ | ⟨a', m'', heq, h⟩)
      · rw [hx] at h
        cases h
      · cases heq
        exact h
  | error e' m' =>
    rw [HaltsOn, bind_error hx]
    constructor
    · rintro ⟨m'', h⟩
      cases h
      exact .inl ⟨m', hx⟩
    · rintro (⟨m'', h⟩ | ⟨a', m'', heq, h⟩)
      · rw [hx] at h
        cases h
        exact ⟨m', rfl⟩
      · cases heq

/-- The first part halts. -/
theorem bind (h : HaltsOn e x m) (f : α → Run β) : HaltsOn e (x >>= f) m :=
  bind_iff.mpr (.inl h)

/-- What goes on behind the first part halts. -/
theorem behind (hx : x m = .ok a m') (h : HaltsOn e (f a) m') : HaltsOn e (x >>= f) m :=
  bind_iff.mpr (.inr ⟨a, m', hx, h⟩)

theorem not_pure : ¬ HaltsOn e (pure a : Run α) m := by
  rintro ⟨m', h⟩
  cases h

theorem silently_iff : HaltsOn e x.silently m ↔ HaltsOn e x m := by
  rw [silently, bind_iff, or_iff_left]
  rintro ⟨a, m', _, h⟩
  exact not_pure h

/-- Discarding the answer catches no halt. -/
theorem quiet (h : HaltsOn e x m) : HaltsOn e x.silently m :=
  silently_iff.mpr h

/-- Discarding the answer causes no halt. -/
theorem loud (h : HaltsOn e x.silently m) : HaltsOn e x m :=
  silently_iff.mp h

end HaltsOn

/-! ## Lists -/

section

variable {e : Halt} {m : Machine}

/-- What has been kept so far matters to the answer of a filter only. -/
theorem silently_filterAuxM {test : α → Run Bool} (items : List α) : ∀ kept kept' : List α,
    (items.filterAuxM test kept).silently = (items.filterAuxM test kept').silently := by
  induction items with
  | nil =>
    intro kept kept'
    simp only [List.filterAuxM, silently, pure_bind]
  | cons v rest ih =>
    intro kept kept'
    simp only [silently] at ih
    simp only [List.filterAuxM, silently, bind_assoc]
    refine congrArg (test v >>= ·) (funext fun b => ih _ _)

/-- **A method with a closure** calls it for the first item, and then goes on or not. -/
theorem silently_callClosureMethod_cons (method : ClosureMethod) (f : Value → Run Value)
    (v : Value) (rest : List Value) :
    (callClosureMethod method f (v :: rest)).silently =
      f v >>= fun r =>
        if method.goesOn r = true then (callClosureMethod method f rest).silently
        else pure () := by
  cases method with
  | map =>
    simp only [callClosureMethod, List.mapM_cons, silently, bind_assoc, pure_bind,
      ClosureMethod.goesOn, if_true]
  | filter =>
    have hkept : ∀ kept, (rest.filterAuxM (fun v => return (← f v).isTruthy) kept).silently =
        (rest.filterAuxM (fun v => return (← f v).isTruthy) []).silently :=
      fun kept => silently_filterAuxM rest kept []
    simp only [silently] at hkept
    simp only [callClosureMethod, List.filterM, List.filterAuxM, silently, bind_assoc, pure_bind,
      ClosureMethod.goesOn, if_true, hkept]
  | any =>
    simp only [callClosureMethod, List.anyM, silently, bind_assoc, pure_bind,
      ClosureMethod.goesOn]
    refine congrArg (f v >>= ·) (funext fun r => ?_)
    -- The first item that the test holds of settles the matter.
    cases r.isTruthy with
    | true => rfl
    | false => rfl
  | all =>
    simp only [callClosureMethod, List.allM, silently, bind_assoc, pure_bind,
      ClosureMethod.goesOn]
    refine congrArg (f v >>= ·) (funext fun r => ?_)
    -- Here it is the first that the test does not hold of.
    cases r.isTruthy with
    | true => rfl
    | false => rfl

/-- A method with a closure halts if the closure does for the first item, or if it goes on
behind the first item and halts there. -/
theorem haltsOn_callClosureMethod_cons (method : ClosureMethod) (f : Value → Run Value)
    (v : Value) (rest : List Value) :
    HaltsOn e (callClosureMethod method f (v :: rest)) m ↔
      HaltsOn e (f v) m ∨ ∃ r m', f v m = .ok r m' ∧ method.goesOn r = true ∧
        HaltsOn e (callClosureMethod method f rest) m' := by
  rw [← HaltsOn.silently_iff, silently_callClosureMethod_cons, HaltsOn.bind_iff]
  refine or_congr_right (exists₂_congr fun r m' => and_congr_right fun _ => ?_)
  by_cases hgoes : method.goesOn r = true
  · rw [if_pos hgoes, HaltsOn.silently_iff, and_iff_right hgoes]
  · rw [if_neg hgoes]
    exact iff_of_false HaltsOn.not_pure fun h => hgoes h.1

/-! ## Calls -/

/-- What is run one call deeper takes the call with it, if the limit admits the call. -/
theorem haltsOn_withCall_iff {limit : Nat} {loc : Coordinate} {x : Run α}
    (h : m.callDepth < limit) : HaltsOn e (withCall limit loc x) m ↔ HaltsOn e x m.deeper := by
  rw [HaltsOn, HaltsOn, withCall_of_lt loc x h]
  cases x m.deeper with
  | ok a m' => exact iff_of_false nofun nofun
  | error e' m' =>
    constructor
    · rintro ⟨_, heq⟩
      cases heq
      exact ⟨m', rfl⟩
    · rintro ⟨_, heq⟩
      cases heq
      exact ⟨_, rfl⟩

section

variable {p : Provision} {enter : Enter} {env : Environment} {ctx : Context} {loc : Coordinate}
  {name : String}

/-- A function that is found by its name is entered in a frame of its own. -/
theorem call_function {receiver : Option Value} {args : List Argument} {f : Routine}
    (h : (Table.get? m.functions name).or (p.registry.function? name) = some f) :
    call p enter env ctx loc name receiver args m =
      (callFrame env >>= fun frame =>
        enter name f ((receiver.map (Argument.plain loc)).toList ++ args) frame ctx loc >>=
          fun flow => pure flow.value) m := by
  unfold call
  rw [get_bind, h]

/-- A name of no function means a builtin. -/
theorem call_builtin {receiver : Option Value} {args : List Argument}
    (h : (Table.get? m.functions name).or (p.registry.function? name) = none) :
    call p enter env ctx loc name receiver args m =
      match receiver with
      | some v => callMethod enter ctx loc name v args m
      | none => callBuiltin ctx loc name args m := by
  unfold call
  rw [get_bind, h]
  cases receiver with
  | some v => rfl
  | none => rfl

/-- A method with a closure goes through the items of its receiver. -/
theorem callMethod_items {args : List Argument} {inputs : Inputs} {method : ClosureMethod}
    {c : Closure} {v : Value} {vs : List Value}
    (hinputs : Inputs.ofArguments name args = .ok inputs)
    (hmethod : ClosureMethod.named? name = some method)
    (hc : inputs.onlyClosure name = .ok c) (hvs : method.items v = .ok vs) :
    callMethod enter ctx loc name v args =
      callClosureMethod method (fun v => callClosure enter ctx loc c [v]) vs := by
  simp only [callMethod, hinputs, hmethod, pure_bind, hc, hvs, Run.ofExcept]

end

/-- Parameters are bound one after the other. -/
theorem bindSlots_cons (evaluate : Expr → Run Value) (callee : String) (frame : Environment)
    (loc : Coordinate) (slot : Param × Option Value) (rest : List (Param × Option Value)) :
    bindSlots evaluate callee frame loc (slot :: rest) =
      bindSlots evaluate callee frame loc [slot] >>= fun _ =>
        bindSlots evaluate callee frame loc rest := by
  obtain ⟨⟨ploc, name, default⟩, filled⟩ := slot
  cases filled with
  | some v => simp only [bindSlots, bind_assoc, pure_bind]
  | none =>
    cases default with
    | some e => simp only [bindSlots, Param.default, bind_assoc, pure_bind]
    | none => simp only [bindSlots, Param.default, bind_assoc, pure_bind]

/-- A loop over entries binds its variables and then runs its statements. -/
theorem eachBody_eq (p : Provision) (enter : Enter) (env : Environment) (ctx : Context)
    (key : Option String) (name : String) (body : List Statement) (k v : Value) :
    eachBody p enter env ctx key name body k v =
      eachScope env key name k v >>= fun scope => runBlock p enter scope ctx body := by
  cases key with
  | none => rfl
  | some key => rfl

end

end Run

/-! ## Moments that halt -/

namespace Moment

open Run

/-- What is run at the moment comes to no answer. -/
def Halts (p : Provision) (e : Halt) (μ : Moment) : Prop :=
  HaltsOn e (μ.part.run p (enterWithin p μ.levels)) μ.machine

namespace Next

open HaltsOn (quiet loud)

variable {p : Provision} {μ ν : Moment} {e : Halt}

/-! What is called comes somewhere in the part, behind others that have had an answer, which are
among the premises of the call. Answers are discarded, on the way in and on the way out. -/

/-- What halts in an expression halts behind the operands before it. -/
theorem halts_of_expression (h : Next p μ ν) (hν : ν.Halts p e)
    (hfamily : μ.part.family = .expression) : μ.Halts p e := by
  cases h with
  | operand | left | target | callArgs | receiver | condition | listItems | objectEntries
  | firstExpr | firstEntry => exact quiet ((loud hν).bind _)
  | right hx hs =>
    refine quiet (.behind hx ?_)
    rw [if_neg hs]
    exact (loud hν).bind _
  | index hx => exact quiet (.behind hx ((loud hν).bind _))
  | call hx => exact quiet (.behind hx (loud hν))
  | memberArgs hx => exact quiet (.behind hx ((loud hν).bind _))
  | memberCall hx hy => exact quiet (.behind hx (.behind hy (loud hν)))
  | whenTrue hx ht =>
    refine quiet (.behind hx ?_)
    rw [if_pos ht]
    exact loud hν
  | whenFalse hx ht =>
    refine quiet (.behind hx ?_)
    rw [if_neg (Bool.eq_false_iff.mp ht)]
    exact loud hν
  | otherExprs hx => exact quiet (.behind hx ((loud hν).bind _))
  | otherEntries hx => exact quiet (.behind hx (loud hν))
  | @firstArg l env ctx loc name a args m hc =>
    cases a with
    | closure => cases hc
    | _ => exact quiet ((loud hν).bind _)
  | @argsBehindValue l env ctx loc name a args m v m' hc hx =>
    cases a with
    | closure => cases hc
    | _ => exact quiet (.behind hx ((loud hν).bind _))
  | @argsBehindClosure l env ctx loc name a args m hc =>
    cases a with
    | closure => exact quiet ((loud hν).bind _)
    | _ => cases hc
  | _ => cases hfamily

/-- What halts in a routine, or in a closure for one of the items, halts in the call. -/
theorem halts_of_call (h : Next p μ ν) (hν : ν.Halts p e) (hfamily : μ.part.family = .call) :
    μ.Halts p e := by
  cases h with
  | routine hf hframe =>
    refine quiet ?_
    rw [HaltsOn, call_function hf]
    exact HaltsOn.behind hframe ((loud hν).bind _)
  | items hf hinputs hmethod hc hvs =>
    refine quiet ?_
    rw [HaltsOn, call_builtin hf]
    show HaltsOn e (callMethod _ _ _ _ _ _) _
    rw [callMethod_items hinputs hmethod hc hvs]
    exact loud hν
  | firstItem => exact quiet ((haltsOn_callClosureMethod_cons _ _ _ _).mpr (.inl (loud hν)))
  | otherItems hx hgoes =>
    exact quiet ((haltsOn_callClosureMethod_cons _ _ _ _).mpr
      (.inr ⟨_, _, hx, hgoes, loud hν⟩))
  | closure hframe => exact quiet (.behind hframe ((loud hν).bind _))
  | _ => cases hfamily

/-- What halts one call deeper halts in the routine, and a default in the parameters. -/
theorem halts_of_routine (h : Next p μ ν) (hν : ν.Halts p e)
    (hfamily : μ.part.family = .routine) : μ.Halts p e := by
  cases h with
  | slots hd hfill =>
    refine quiet ((haltsOn_withCall_iff hd).mpr (.bind ?_ _))
    rw [bindArguments, hfill]
    exact hν
  | body hd hx => exact quiet ((haltsOn_withCall_iff hd).mpr (.behind hx (loud hν)))
  | default => exact (loud hν).bind _
  | @otherSlots l callee frame ctx loc slot ss m m' hx =>
    show HaltsOn e (bindSlots (evaluate p (enterWithin p l) frame ctx) callee frame loc
      (slot :: ss)) m
    rw [bindSlots_cons]
    exact .behind hx hν
  | _ => cases hfamily

/-- A statement halts where its expressions do, or behind them where its body, a mixin or a library
does. -/
theorem halts_of_statement (h : Next p μ ν) (hν : ν.Halts p e)
    (hfamily : μ.part.family = .statement) : μ.Halts p e := by
  cases h with
  -- Many statements run what they call first.
  | declared | returned | rangeFirst | iterable | setTo | merged | evaluated | firstStatement
  | test => exact quiet ((loud hν).bind _)
  | conditional | again => exact hν
  | rangeLast hx => exact quiet (.behind hx (.behind rfl ((loud hν).bind _)))
  | range hx hy => exact quiet (.behind hx (.behind rfl (.behind hy (.behind rfl (loud hν)))))
  | @each l env ctx loc key name a body m v m' entries hx hentries =>
    refine quiet (.behind hx ?_)
    rw [hentries]
    exact loud hν
  | @written l env ctx loc key indexer a m path hpath =>
    have hfound : (Run.ofExcept loc id (fieldPath key indexer) : Run _) m = .ok path m := by
      rw [hpath]
      rfl
    exact quiet (.behind hfound ((loud hν).bind _))
  | @mixinArgs l env ctx loc name args m mixin hf =>
    refine quiet ?_
    show HaltsOn e (runStatement p (enterWithin p l) env ctx (.includeMixin loc name args)) m
    rw [HaltsOn, runStatement, get_bind, hf]
    exact (loud hν).bind _
  | @mixin l env ctx loc name args m mixin given m' frame m'' hf hargs hframe =>
    refine quiet ?_
    show HaltsOn e (runStatement p (enterWithin p l) env ctx (.includeMixin loc name args)) m
    rw [HaltsOn, runStatement, get_bind, hf]
    exact HaltsOn.behind hargs (.bind (.behind hframe ((loud hν).bind _)) _)
  | @selection l env ctx loc attributes selector body m ids host hw hr =>
    refine quiet (.bind ?_ _)
    rw [HaltsOn, select_wanted ctx loc selector _ hw m, hr]
    exact hν
  | @library l env ctx loc name m library hl =>
    refine quiet ?_
    show HaltsOn e (runStatement p (enterWithin p l) env ctx (.importLibrary loc name)) m
    rw [runStatement, hl]
    exact (loud hν).bind _
  | otherStatements hx => exact quiet (.behind hx (loud hν))
  | otherwise hscope => exact quiet (.behind hscope (loud hν))
  | passed hx hscope => exact quiet (.behind hx (.behind hscope (loud hν)))
  | otherBranches hx => exact quiet (.behind hx (loud hν))
  | _ => cases hfamily

/-- What halts in the body, or in the rest of a loop behind it, halts in the loop. -/
theorem halts_of_loop (h : Next p μ ν) (hν : ν.Halts p e) (hfamily : μ.part.family = .loop) :
    μ.Halts p e := by
  cases h with
  | rangeBody hscope =>
    have hblock := loud hν
    exact quiet (.bind (.behind hscope (.behind rfl hblock)) _)
  | otherNumbers hx => exact quiet (.behind hx (loud hν))
  | eachBody hscope =>
    refine quiet (.bind ?_ _)
    rw [eachBody_eq]
    exact .behind hscope (loud hν)
  | otherEach hx => exact quiet (.behind hx (loud hν))
  | @againTest l env ctx loc c body budget m =>
    cases budget with
    | zero => exact quiet ((loud hν).bind _)
    | succ budget => exact quiet ((loud hν).bind _)
  | againBody hx ht =>
    refine quiet (.behind hx ?_)
    rw [if_pos ht]
    exact (loud hν).bind _
  | againAgain hx ht hy =>
    refine quiet (.behind hx ?_)
    rw [if_pos ht]
    exact .behind hy (loud hν)
  | @visit l env ctx loc body id rest m scope m' hid hscope =>
    show HaltsOn e (forMatches loc ctx (visitBody p (enterWithin p l) env body) (id :: rest)) m
    rw [HaltsOn, forMatches_cons hid]
    exact HaltsOn.bind (.behind hscope ((loud hν).bind _)) _
  | @otherVisits l env ctx loc body id rest m m' hid hx =>
    show HaltsOn e (forMatches loc ctx (visitBody p (enterWithin p l) env body) (id :: rest)) m
    rw [HaltsOn, forMatches_cons hid]
    exact HaltsOn.behind hx hν
  | _ => cases hfamily

/-- **Nothing catches a halt.** What halts takes what has called it with it. -/
theorem halts (h : Next p μ ν) (hν : ν.Halts p e) : μ.Halts p e := by
  cases hfamily : μ.part.family with
  | expression => exact h.halts_of_expression hν hfamily
  | call => exact h.halts_of_call hν hfamily
  | routine => exact h.halts_of_routine hν hfamily
  | statement => exact h.halts_of_statement hν hfamily
  | loop => exact h.halts_of_loop hν hfamily

end Next

end Moment

end Graft
