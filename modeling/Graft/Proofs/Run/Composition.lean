import Graft.Proofs.Run.Explanation

/-!
Every part is composed of what it calls.

Each computation of the interpreter is taken apart in the order in which it runs. What it calls is
composed of the call, and what is known by then makes up the premises of the next one. So every
halt is explained at the moment that ends in it, and every effect is accounted for at the moment
whose part has it.
-/

set_option autoImplicit false

namespace Graft

open Run

variable {p : Provision}

namespace Moment

section

variable (l : Nat) (env : Environment) (ctx : Context) (m : Machine)

/-- A binary operator fails or traps, and traps only where the moment does. -/
theorem composed_operation (loc : Coordinate) (op : BinaryOp) {a b : Expr} {v w : Value}
    {m' m'' : Machine} (hv : evaluate p (enterWithin p l) env ctx a m = .ok v m')
    (hw : evaluate p (enterWithin p l) env ctx b m' = .ok w m'') :
    Composed p ⟨l, .expr env ctx (.binary loc op a b), m⟩
      (Run.ofExcept loc .operator (Value.binary op v w)) m'' := by
  cases hr : Value.binary op v w with
  | ok r => exact .pure r
  | error err =>
    by_cases htrap : err = .trap
    · subst htrap
      obtain ⟨rfl, rfl, rfl⟩ := Value.binary_eq_trap_iff.mp hr
      exact .halt (.inr (.inl ⟨rfl, .quotient hv hw⟩))
    · exact .fail (Cause.isPlain_operator htrap)

/-- **Expressions.** An expression calls its operands in turn and goes on with their values. What
it does by itself is to look up names, to apply operators and to fail. -/
theorem composed_expr (e : Expr) :
    Composed p ⟨l, .expr env ctx e, m⟩ (evaluate p (enterWithin p l) env ctx e) m := by
  cases e with
  -- What calls nothing has an answer or fails.
  | literal loc v => exact .pure v
  | «variable» loc name =>
    rw [evaluate]
    refine .get ?_
    split
    · exact .pure _
    · exact .fail rfl
  | localVariable loc name =>
    rw [evaluate]
    refine .get ?_
    split
    · exact .pure _
    · exact .fail rfl
  | unary loc op a =>
    refine (Composed.call .operand rfl).bind fun v m' _ => .ofExcept fun e he => ?_
    refine Cause.isPlain_operator fun htrap => ?_
    subst htrap
    exact Value.unary_ne_trap op v he
  | binary loc op a b =>
    refine (Composed.call .left rfl).bind fun v m' hv => ?_
    by_cases hs : settledBy? op = some v.isTruthy
    · rw [if_pos hs]
      exact .pure _
    · -- The left operand leaves it open.
      rw [if_neg hs]
      refine (Composed.call (.right hv hs) rfl).bind fun w m'' hw => ?_
      exact composed_operation l env ctx m loc op hv hw
  | subscript loc a b =>
    refine (Composed.call .target rfl).bind fun v m' hv => ?_
    exact (Composed.call (.index hv) rfl).bind fun w m'' _ => .subscript loc v w
  | call loc name args =>
    refine (Composed.call .callArgs rfl).bind fun given m' hg => ?_
    exact .call (.call hg) rfl
  | memberCall loc e name args =>
    refine (Composed.call .receiver rfl).bind fun v m' hv => ?_
    refine (Composed.call (.memberArgs hv) rfl).bind fun given m'' hg => ?_
    exact .call (.memberCall hv hg) rfl
  | ternary loc c a b =>
    refine (Composed.call .condition rfl).bind fun v m' hv => ?_
    by_cases ht : v.isTruthy = true
    · rw [if_pos ht]
      exact .call (.whenTrue hv ht) rfl
    · rw [if_neg ht]
      exact .call (.whenFalse hv (Bool.eq_false_iff.mpr ht)) rfl
  | list loc es => exact (Composed.call .listItems rfl).bind fun vs m' _ => .pure _
  | object loc es => exact (Composed.call .objectEntries rfl).bind fun vs m' _ => .pure _
  | closure loc params body => exact .fail rfl
  | error loc fault => exact .malformed .expr rfl

/-- Expressions in a list call each other in turn: the first, then the others on what it has
left. -/
theorem composed_exprs (es : List Expr) :
    Composed p ⟨l, .exprs env ctx es, m⟩ (evaluateAll p (enterWithin p l) env ctx es) m := by
  cases es with
  | nil => exact .pure []
  | cons e rest =>
    refine (Composed.call .firstExpr rfl).bind fun v m' hv => ?_
    exact (Composed.call (.otherExprs hv) rfl).bind fun vs m'' _ => .pure _

/-- Entries are called in turn as well, each with those before it known. -/
theorem composed_entries (known : Table Value) (es : List Entry) :
    Composed p ⟨l, .entries env ctx known es, m⟩
      (evaluateEntries p (enterWithin p l) env ctx known es) m := by
  cases es with
  | nil => exact .pure known
  | cons entry rest =>
    obtain ⟨loc, key, e⟩ := entry
    refine (Composed.call .firstEntry rfl).bind fun v m' hv => ?_
    exact .call (.otherEntries hv) rfl

/-- An argument is evaluated unless it is a closure, which is handed over as it is. -/
theorem composed_args (as : List Arg) :
    Composed p ⟨l, .args env ctx as, m⟩ (evaluateArgs p (enterWithin p l) env ctx as) m := by
  cases as with
  | nil => exact .pure []
  | cons arg rest =>
    obtain ⟨loc, name, e⟩ := arg
    cases e with
    -- A closure is not evaluated.
    | closure _ params body =>
      exact (Composed.call (.argsBehindClosure rfl) rfl).bind fun given m' _ => .pure _
    | _ =>
      refine (Composed.call (.firstArg rfl) rfl).bind fun v m' hv => ?_
      exact (Composed.call (.argsBehindValue rfl hv) rfl).bind fun given m'' _ => .pure _

/-- **Calls.** A name is looked up on the machine as it is. It leads to a routine in a frame of its
own, to a method that goes through items with a closure, or to a builtin that calls nothing. -/
theorem composed_call (loc : Coordinate) (name : String) (receiver : Option Value)
    (as : List Argument) :
    Composed p ⟨l, .call env ctx loc name receiver as, m⟩
      (Run.call p (enterWithin p l) env ctx loc name receiver as) m := by
  cases hf : (Table.get? m.functions name).or (p.registry.function? name) with
  | some f =>
    refine .congr (call_function hf) ((Composed.child _).bind fun frame m' hframe => ?_)
    exact (Composed.call (.routine hf hframe) rfl).bind fun flow m'' _ => .pure _
  | none =>
    cases receiver with
    | none => exact .congr (call_builtin hf) (.callBuiltin ctx loc name as)
    | some v =>
      refine .congr (call_builtin hf) (Composed.sorted fun inputs hinputs => ?_)
      cases hmethod : ClosureMethod.named? name with
      | some method =>
        refine Composed.check (.onlyClosure _ _) fun c hc => ?_
        refine Composed.check (.items _ _) fun vs hvs => ?_
        exact .call (.items hf hinputs hmethod hc hvs) rfl
      | none =>
        cases Method.named? name with
        | some method => exact .plain (.call method v inputs)
        | none => exact .fail rfl

/-- A method with a closure calls it for the first item, and goes on with the others unless the
answer settles the matter. -/
theorem composed_items (method : ClosureMethod) (loc : Coordinate) (c : Closure)
    (vs : List Value) :
    Composed p ⟨l, .items method ctx loc c vs, m⟩
      (callClosureMethod method (fun v => callClosure (enterWithin p l) ctx loc c [v]) vs) m := by
  cases vs with
  | nil =>
    -- Without items the answer is there at once.
    cases method <;> exact .pure _
  | cons v rest =>
    refine .silent ?_
    rw [silently_callClosureMethod_cons]
    refine (Composed.call .firstItem rfl).bind fun r m' hr => ?_
    by_cases hgoes : method.goesOn r = true
    · rw [if_pos hgoes]
      exact .next (.otherItems hr hgoes) rfl
    · rw [if_neg hgoes]
      exact .pure ()

/-- A closure is run as a routine, in a new frame inside the environment that it was written in. -/
theorem composed_closure (loc : Coordinate) (c : Closure) (values : List Value) :
    Composed p ⟨l, .closure ctx loc c values, m⟩
      (callClosure (enterWithin p l) ctx loc c values) m := by
  refine (Composed.child _).bind fun frame m' hframe => ?_
  exact (Composed.call (.closure hframe) rfl).bind fun flow m'' _ => .pure _

/-- Each parameter is bound to its argument or to its default. A parameter that has neither fails
the routine. -/
theorem composed_slots (callee : String) (frame : Environment) (loc : Coordinate)
    (ss : List (Param × Option Value)) :
    Composed p ⟨l, .slots callee frame ctx loc ss, m⟩
      (bindSlots (evaluate p (enterWithin p l) frame ctx) callee frame loc ss) m := by
  cases ss with
  | nil => exact .pure ()
  | cons slot rest =>
    obtain ⟨⟨ploc, name, default⟩, filled⟩ := slot
    rw [bindSlots_cons]
    refine Composed.bind ?_ fun _ m' h => .next (.otherSlots h) rfl
    cases filled with
    | some v => exact (Composed.declare frame name v).bind fun _ _ _ => .pure ()
    | none =>
      cases default with
      | some e =>
        refine (Composed.call .default rfl).bind fun v m' _ => ?_
        exact (Composed.declare frame name v).bind fun _ _ _ => .pure ()
      | none =>
        have hcause : (Cause.missingArgument callee name).isPlain = true := rfl
        exact .failing hcause

/-- **Routines.** A routine binds its parameters and runs its body one call deeper. It is refused
at the limit on the depth of calls, and where no level is left the execution is exhausted. -/
theorem composed_routine (callee : String) (r : Routine) (as : List Argument)
    (frame : Environment) (loc : Coordinate) :
    Composed p ⟨l, .routine callee r as frame ctx loc, m⟩
      (enterWithin p l callee r as frame ctx loc) m := by
  cases l with
  | zero =>
    -- No level is left.
    exact .halt (.inr (.inr (.inl ⟨rfl, rfl⟩)))
  | succ l =>
    by_cases hd : m.callDepth < p.settings.limits.maxCallDepth
    · refine .withCall hd (Composed.bind ?_ fun _ m' hbound => ?_)
      · unfold bindArguments
        cases hfill : (Slots.blank r.params).fillAll callee as with
        | ok ss => exact .next (.slots hd hfill) rfl
        | error err => exact .fail (Slots.isPlain_of_fillAll hfill)
      · exact .call (.body hd hbound) rfl
    · -- The limit is reached.
      have hfail : enterWithin p (l + 1) callee r as frame ctx loc m =
          fail loc (.callLimit p.settings.limits.maxCallDepth) m := if_pos (Nat.not_lt.mp hd)
      exact .congr hfail (.refused (.call (Nat.not_lt.mp hd)))

/-- A block calls its first statement, and the others unless that one has returned. -/
theorem composed_block (body : List Statement) :
    Composed p ⟨l, .block env ctx body, m⟩ (runBlock p (enterWithin p l) env ctx body) m := by
  cases body with
  | nil => exact .pure _
  | cons s rest =>
    refine (Composed.call .firstStatement rfl).bind fun flow m' hs => ?_
    cases flow with
    | next => exact .call (.otherStatements hs) rfl
    | returned v => exact .pure _

/-- The first branch calls its condition, then its body in a new frame or the other branches. -/
theorem composed_branches (bs : Branches) :
    Composed p ⟨l, .branches env ctx bs, m⟩
      (runBranches p (enterWithin p l) env ctx bs) m := by
  cases bs with
  | nothing => exact .pure _
  | otherwise body =>
    refine (Composed.child env).bind fun scope m' hscope => ?_
    exact .call (.otherwise hscope) rfl
  | when loc c body rest =>
    refine (Composed.call .test rfl).bind fun v m' hv => ?_
    cases v with
    | bool b =>
      cases b with
      | true =>
        refine (Composed.child env).bind fun scope m'' hscope => ?_
        exact .call (.passed hv hscope) rfl
      | false => exact .call (.otherBranches hv) rfl
    | _ => exact .fail rfl

/-- **Selections.** A selection that is to run acts on the machine before it calls anything: it is
counted, and its selector may add elements. It is refused if the selector fails, and otherwise goes
on through what was yielded. -/
theorem composed_selection (loc : Coordinate) (attributes : List Attribute)
    (selector : Selector) (body : List Statement) :
    Composed p ⟨l, .statement env ctx (.selection loc attributes selector body), m⟩
      (select p ctx loc attributes selector (visitBody p (enterWithin p l) env body)) m := by
  by_cases hw : isWanted p attributes ctx.selected = true
  · have hrun := select_wanted ctx loc selector (visitBody p (enterWithin p l) env body) hw m
    rcases hr : selector.resolve p ctx.element m.host with ⟨result, host⟩
    rw [hr] at hrun
    cases result with
    | error err => exact .behind hrun (.acts (.fails hw hr)) (.refused (.selector hw hr))
    | ok ids => exact .behind hrun (.acts (.yields hw hr)) (.next (.selection hw hr) rfl)
  · -- A selection that is not to run is counted as skipped, and that is all.
    have hrun := select_unwanted ctx loc selector (visitBody p (enterWithin p l) env body) hw m
    have hskipped :
        select p ctx loc attributes selector (visitBody p (enterWithin p l) env body) m =
          (Pure.pure () : Run Unit) m.skipped := hrun
    exact .behind hskipped (.quiet ⟨rfl, rfl⟩) (.pure ())

/-- The path of a field statement is there unless its indexer could not be read. -/
theorem composed_fieldPath (loc : Coordinate) (key : String) (indexer : Option Indexer)
    (e : Expr) : Composed p ⟨l, .statement env ctx (.field loc key indexer e), m⟩
      (Run.ofExcept loc id (fieldPath key indexer)) m := by
  cases indexer with
  | none => exact .pure _
  | some indexer =>
    cases indexer with
    | error iloc fault => exact .malformed .indexer rfl
    | _ => exact .pure _

/-- A loop over numbers finds its bounds, each of which is a whole number or fails the loop. -/
theorem composed_forRange (loc : Coordinate) (name : String) (a b : Expr) (end_ : RangeEnd)
    (body : List Statement) :
    Composed p ⟨l, .statement env ctx (.forRange loc name a b end_ body), m⟩
      (runStatement p (enterWithin p l) env ctx (.forRange loc name a b end_ body)) m := by
  refine (Composed.call .rangeFirst rfl).bind fun v m' hv => ?_
  refine (Composed.bound _ _ v).bind fun x m₁ hx => ?_
  obtain ⟨rfl, rfl⟩ := bound_eq_ok hx
  refine (Composed.call (.rangeLast hv) rfl).bind fun w m'' hw => ?_
  refine (Composed.bound _ _ w).bind fun y m₂ hy => ?_
  obtain ⟨rfl, rfl⟩ := bound_eq_ok hy
  exact .call (.range hv hw) rfl

/-- A loop over entries finds them, or fails where there are none to go through. -/
theorem composed_forEach (loc : Coordinate) (key : Option String) (name : String) (e : Expr)
    (body : List Statement) :
    Composed p ⟨l, .statement env ctx (.forEach loc key name e body), m⟩
      (runStatement p (enterWithin p l) env ctx (.forEach loc key name e body)) m := by
  refine (Composed.call .iterable rfl).bind fun v m' hv => ?_
  cases hentries : entriesOf? v with
  | none => exact .fail rfl
  | some es => exact .call (.each hv hentries) rfl

/-- A field is written by finding its path and the new value. The write fails, or what it has made
of the value of the element is put to the host. -/
theorem composed_field (loc : Coordinate) (key : String) (indexer : Option Indexer) (e : Expr) :
    Composed p ⟨l, .statement env ctx (.field loc key indexer e), m⟩
      (runStatement p (enterWithin p l) env ctx (.field loc key indexer e)) m := by
  refine (composed_fieldPath l env ctx m loc key indexer e).bind fun path m' hread => ?_
  obtain ⟨hpath, rfl⟩ := ofExcept_eq_ok hread
  refine (Composed.call (.written hpath) rfl).bind fun v m' hv => ?_
  refine Composed.bind ?_ fun _ _ _ => .pure _
  rw [writeField_eq]
  refine .target fun hsel => ?_
  cases hwrite : Value.writeAt p.settings.fields v (m'.host.get ctx.element).value.orObject path
    with
  | error err =>
    refine .congr (y := Run.fail loc (.path err)) ?_ (.fail (Value.isPlain_of_writeAt hwrite))
    rw [writeInto, hwrite]
    rfl
  | ok changed =>
    refine .congr ?_ (.requested (.field hsel hpath hv hwrite))
    rw [writeInto, hwrite]
    rfl

/-- A mixin is run in a frame of its own on the arguments that are found before. What is left then
is to hand over what it has declared. -/
theorem composed_includeMixin (loc : Coordinate) (name : String) (args : List Arg) :
    Composed p ⟨l, .statement env ctx (.includeMixin loc name args), m⟩
      (runStatement p (enterWithin p l) env ctx (.includeMixin loc name args)) m := by
  refine .get ?_
  cases hf : (Table.get? m.mixins name).or (p.registry.mixin? name) with
  | none => exact .fail rfl
  | some mixin =>
    refine (Composed.call (.mixinArgs hf) rfl).bind fun given m' hargs => ?_
    refine Composed.bind ?_ fun _ _ _ => .pure _
    refine (Composed.child env).bind fun frame m'' hframe => ?_
    refine (Composed.call (.mixin hf hargs hframe) rfl).bind fun flow m₁ _ => .get ?_
    exact .exportBindings _ env _

/-- A library is run as a routine without parameters, in the global frame. -/
theorem composed_importLibrary (loc : Coordinate) (name : String) :
    Composed p ⟨l, .statement env ctx (.importLibrary loc name), m⟩
      (runStatement p (enterWithin p l) env ctx (.importLibrary loc name)) m := by
  rw [runStatement]
  cases hl : p.registry.library? name with
  | none => exact .fail rfl
  | some library => exact (Composed.call (.library hl) rfl).bind fun flow m' _ => .pure _

/-- **Statements.** A statement is composed of the expressions that it evaluates and of the
statements that it runs; besides, it binds, declares, counts or edits, and an edit is put to the
host if the element is open for edits. -/
theorem composed_statement (s : Statement) :
    Composed p ⟨l, .statement env ctx s, m⟩ (runStatement p (enterWithin p l) env ctx s) m := by
  cases s with
  | declare loc name e =>
    refine (Composed.call .declared rfl).bind fun v m' _ => ?_
    exact (Composed.declare env name v).bind fun _ _ _ => .pure _
  | conditional loc branches => exact .call .conditional rfl
  | ret loc e =>
    cases e with
    | none => exact .pure _
    | some e => exact (Composed.call .returned rfl).bind fun v m' _ => .pure _
  | forRange loc name a b end_ body => exact composed_forRange l env ctx m loc name a b end_ body
  | forEach loc key name e body => exact composed_forEach l env ctx m loc key name e body
  | whileTrue loc c body => exact .call .again rfl
  | set loc e =>
    refine (Composed.call .setTo rfl).bind fun v m' hv => ?_
    exact (Composed.target fun hsel => .requested (.set hsel hv)).bind fun _ _ _ => .pure _
  | delete loc =>
    exact (Composed.target fun hsel => .requested (.delete hsel)).bind fun _ _ _ => .pure _
  | merge loc e =>
    refine (Composed.call .merged rfl).bind fun v m' hv => ?_
    exact (Composed.target fun hsel => .requested (.merge hsel hv)).bind fun _ _ _ => .pure _
  | field loc key indexer e => exact composed_field l env ctx m loc key indexer e
  | includeMixin loc name args => exact composed_includeMixin l env ctx m loc name args
  | selection loc attributes selector body =>
    exact (composed_selection l env ctx m loc attributes selector body).bind fun _ _ _ => .pure _
  | expression loc e => exact (Composed.call .evaluated rfl).bind fun v m' _ => .pure _
  | importLibrary loc name => exact composed_importLibrary l env ctx m loc name
  | stage loc name priority => exact (Composed.modify _ ⟨rfl, rfl⟩).bind fun _ _ _ => .pure _
  | function loc name params body =>
    cases name with
    | none => exact .malformed .nameless rfl
    | some name => exact (Composed.modify _ ⟨rfl, rfl⟩).bind fun _ _ _ => .pure _
  | mixin loc name params body => exact (Composed.modify _ ⟨rfl, rfl⟩).bind fun _ _ _ => .pure _
  | error loc fault => exact .malformed .statement rfl

/-! ### Loops -/

/-- A loop over numbers calls its body and then itself, with one number less and less of its
budget. -/
theorem composed_range (loc : Coordinate) (name : String) (body : List Statement) (first : Int)
    (count budget : Nat) :
    Composed p ⟨l, .range env ctx loc name body first count budget, m⟩
      (forRange loc p.settings.limits.maxLoopIterations
        (rangeBody p (enterWithin p l) env ctx name body) first count budget) m := by
  cases count with
  | zero => exact .pure _
  | succ count =>
    cases budget with
    | zero => exact .fail rfl
    | succ budget =>
      refine Composed.bind ?_ fun flow m' hbody => ?_
      · refine (Composed.child env).bind fun scope m' hscope => ?_
        refine (Composed.declare scope name _).bind fun _ m'' hbound => ?_
        cases hbound
        exact .call (.rangeBody hscope) rfl
      · cases flow with
        | next => exact .call (.otherNumbers hbody) rfl
        | returned v => exact .pure _

/-- The variables of a loop over entries are bound in a new frame; nothing is called for that. -/
theorem composed_eachScope {μ : Moment} (key : Option String) (name : String) (k v : Value) :
    Composed p μ (eachScope env key name k v) m := by
  refine (Composed.child env).bind fun scope m' _ => ?_
  have hrest : ∀ m', Composed p μ (declare scope name v >>= fun _ => Pure.pure scope) m' :=
    fun m' => (Composed.declare scope name v).bind fun _ _ _ => .pure scope
  cases key with
  | none => exact hrest _
  | some key => exact (Composed.declare scope key k).bind fun _ m'' _ => hrest m''

/-- A loop over entries calls its body for the first entry and then itself for the others. -/
theorem composed_each (loc : Coordinate) (key : Option String) (name : String)
    (body : List Statement) (es : List (Value × Value)) (budget : Nat) :
    Composed p ⟨l, .each env ctx loc key name body es budget, m⟩
      (forEach loc p.settings.limits.maxLoopIterations
        (eachBody p (enterWithin p l) env ctx key name body) es budget) m := by
  cases es with
  | nil => exact .pure _
  | cons entry rest =>
    obtain ⟨k, v⟩ := entry
    cases budget with
    | zero => exact .fail rfl
    | succ budget =>
      refine Composed.bind ?_ fun flow m' hbody => ?_
      · rw [eachBody_eq]
        refine (composed_eachScope env m key name k v).bind fun scope m' hscope => ?_
        exact .call (.eachBody hscope) rfl
      · cases flow with
        | next => exact .call (.otherEach hbody) rfl
        | returned v => exact .pure _

/-- A loop with a condition calls the condition, then its body and itself. Where its budget is
spent it fails behind a condition that holds. -/
theorem composed_again (loc : Coordinate) (c : Expr) (body : List Statement) (budget : Nat) :
    Composed p ⟨l, .again env ctx loc c body budget, m⟩
      (whileTrue loc p.settings.limits.maxLoopIterations
        (evaluate p (enterWithin p l) env ctx c) (runBlock p (enterWithin p l) env ctx body)
        budget) m := by
  cases budget with
  | zero =>
    refine (Composed.call .againTest rfl).bind fun v m' _ => ?_
    split
    · exact .fail rfl
    · exact .pure _
  | succ budget =>
    refine (Composed.call .againTest rfl).bind fun v m' hv => ?_
    by_cases ht : v.isTruthy = true
    · rw [if_pos ht]
      refine (Composed.call (.againBody hv ht) rfl).bind fun flow m'' hbody => ?_
      cases flow with
      | next => exact .call (.againAgain hv ht hbody) rfl
      | returned v => exact .pure _
    · rw [if_neg ht]
      exact .pure _

/-- A selection asks before each element whether it may be edited, and fails if not. Otherwise it
calls its body in a new frame and goes on through the others. -/
theorem composed_visits (loc : Coordinate) (body : List Statement) (ids : List ElementId) :
    Composed p ⟨l, .visits env ctx loc body ids, m⟩
      (forMatches loc ctx (visitBody p (enterWithin p l) env body) ids) m := by
  cases ids with
  | nil => exact .pure ()
  | cons id rest =>
    cases hid : m.host.checkEditable id with
    | error err =>
      have hfail : forMatches loc ctx (visitBody p (enterWithin p l) env body) (id :: rest) m =
          (fail loc (.host err) >>= fun _ : Unit =>
            visitBody p (enterWithin p l) env body ⟨id, true, id :: rest ++ ctx.held⟩ >>=
              fun _ => forMatches loc ctx (visitBody p (enterWithin p l) env body) rest) m := by
        rw [forMatches, get_bind, hid]
        rfl
      exact .congr hfail (.failing rfl)
    | ok u =>
      refine .congr (forMatches_cons hid) (Composed.bind ?_ fun _ m' hbody => ?_)
      · refine (Composed.child env).bind fun scope m' hscope => ?_
        exact (Composed.call (.visit hid hscope) rfl).bind fun flow m'' _ => .pure ()
      · exact .next (.otherVisits hid hbody) rfl

end

/-- **Every part is composed** of what it calls and of what it does by itself. -/
theorem composed (μ : Moment) :
    Composed p μ (μ.part.run p (enterWithin p μ.levels)) μ.machine := by
  obtain ⟨l, part, m⟩ := μ
  -- Most parts are run for what they do, without their answers.
  have silently : ∀ {α : Type} {x : Run α} {μ : Moment}, Composed p μ x m →
      Composed p μ x.silently m := fun h => h.bind fun _ _ _ => .pure ()
  cases part with
  | expr env ctx e => exact silently (composed_expr l env ctx m e)
  | exprs env ctx es => exact silently (composed_exprs l env ctx m es)
  | entries env ctx known es => exact silently (composed_entries l env ctx m known es)
  | args env ctx as => exact silently (composed_args l env ctx m as)
  | call env ctx loc name receiver as =>
    exact silently (composed_call l env ctx m loc name receiver as)
  | items method ctx loc c vs => exact silently (composed_items l ctx m method loc c vs)
  | closure ctx loc c values => exact silently (composed_closure l ctx m loc c values)
  | routine callee r as frame ctx loc =>
    exact silently (composed_routine l ctx m callee r as frame loc)
  | slots callee frame ctx loc ss => exact composed_slots l ctx m callee frame loc ss
  | statement env ctx s => exact silently (composed_statement l env ctx m s)
  | block env ctx body => exact silently (composed_block l env ctx m body)
  | branches env ctx bs => exact silently (composed_branches l env ctx m bs)
  | range env ctx loc name body first count budget =>
    exact silently (composed_range l env ctx m loc name body first count budget)
  | each env ctx loc key name body es budget =>
    exact silently (composed_each l env ctx m loc key name body es budget)
  | again env ctx loc c body budget =>
    exact silently (composed_again l env ctx m loc c body budget)
  | visits env ctx loc body ids => exact composed_visits l env ctx m loc body ids

/-- **Every halt is explained** at the moment that ends in it. -/
theorem Halts.explained {μ : Moment} {e : Halt} (h : μ.Halts p e) : μ.Explains p e :=
  μ.composed.halts e h

/-- **Every effect is accounted for** at the moment whose part has it. -/
theorem brings_after (μ : Moment) : μ.Brings p μ.machine (μ.after p) :=
  μ.composed.brings

end Moment

end Graft
