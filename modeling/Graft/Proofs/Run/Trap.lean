import Graft.Proofs.Value.Slot
import Graft.Run.Execute

/-!
What traps, and which failures are plain.

One operation of the language has no outcome and takes the whole program down: the quotient of
the least whole number by -1. Every other error of an operator is a failure like any other. So
are the errors of builtins, which add and compare but do not divide, those of arguments that do
not fit, and those of writes at a path. These failures are plain: they lie in what a patch does,
and neither in a part of it that could not be read, nor in a selector, nor in the limit on the
depth of calls.
-/

set_option autoImplicit false

namespace Graft

/-! ## Operators -/

namespace Value

/-- A result that does not fit fails as an overflow. -/
theorem exactly_ne_trap (op : BinaryOp) (a b : Int64) (n : Int) :
    exactly op a b n ≠ .error .trap := by
  unfold exactly
  split
  · nofun
  · nofun

/-- Of two whole numbers, only the quotient of the least one by -1 traps. -/
theorem integerArithmetic_eq_trap_iff {op : BinaryOp} {a b : Int64} :
    integerArithmetic op a b = .error .trap ↔ op = .divide ∧ a = Int64.minValue ∧ b = -1 := by
  have ha : a.toInt = -(Numeral.signedBound : Int) ↔ a = Int64.minValue := by
    rw [← Int64.toInt_inj, Int64.toInt_minValue]
    rfl
  have hb : b.toInt = -1 ↔ b = -1 := by
    rw [← Int64.toInt_inj]
    rfl
  constructor
  · intro h
    cases op with
    | divide =>
      simp only [integerArithmetic] at h
      split at h
      · cases h
      · split at h
        · -- The remainder of these two numbers is asked for before the quotient.
          rename_i hleast
          simp only [Bool.and_eq_true, decide_eq_true_eq] at hleast
          exact ⟨rfl, ha.mp hleast.1, hb.mp hleast.2⟩
        · split at h
          · cases h
          · exact absurd h (exactly_ne_trap _ _ _ _)
    | modulo =>
      simp only [integerArithmetic] at h
      split at h
      · cases h
      · split at h
        · cases h
        · exact absurd h (exactly_ne_trap _ _ _ _)
    | add | subtract | multiply => exact absurd h (exactly_ne_trap _ _ _ _)
    | _ => cases h
  · rintro ⟨rfl, rfl, rfl⟩
    rfl

/-- What has no order fails as such. -/
theorem order_ne_trap (op : BinaryOp) (a b : Value) : order op a b ≠ .error .trap := by
  unfold order
  split
  · nofun
  · nofun
  · split
    · split
      · nofun
      · nofun
    · nofun

/-- The opposite of the least whole number does not fit, which is an overflow like any other. -/
theorem unary_ne_trap (op : UnaryOp) (v : Value) : unary op v ≠ .error .trap := by
  unfold unary
  split
  · nofun
  · split
    · nofun
    · nofun
  · nofun
  · nofun
  · nofun
  · nofun

/-- The quotient of the least whole number by -1. -/
def DividesLeast (op : BinaryOp) (a b : Value) : Prop :=
  op = .divide ∧ a = .int Int64.minValue ∧ b = .int (-1)

/-- Arithmetic traps only between whole numbers. With a float among the two it has a result or is no
arithmetic at all. -/
theorem arithmetic_eq_trap_iff {op : BinaryOp} {a b : Value} :
    arithmetic op a b = .error .trap ↔ DividesLeast op a b := by
  unfold DividesLeast
  constructor
  · intro h
    unfold arithmetic at h
    split at h
    · obtain ⟨rfl, rfl, rfl⟩ := integerArithmetic_eq_trap_iff.mp h
      exact ⟨rfl, rfl, rfl⟩
    · cases h
    · cases h
    · cases h
    · cases h
  · rintro ⟨rfl, rfl, rfl⟩
    rfl

/-- **Only one operation traps.** -/
theorem binary_eq_trap_iff {op : BinaryOp} {a b : Value} :
    binary op a b = .error .trap ↔ DividesLeast op a b := by
  -- Comparisons fail only where there is no order.
  have hcompare : ∀ (f : Ordering → Value), (order op a b).map f ≠ .error .trap := by
    intro f h
    cases ho : order op a b with
    | error e =>
      rw [ho] at h
      cases h
      exact order_ne_trap op a b ho
    | ok o =>
      rw [ho] at h
      cases h
  cases op with
  | equal | notEqual | and | or => exact iff_of_false nofun fun h => nomatch h.1
  | lessThan | greaterThan | lessEqual | greaterEqual =>
    exact iff_of_false (hcompare _) fun h => nomatch h.1
  | add =>
    refine iff_of_false ?_ fun h => nomatch h.1
    simp only [binary]
    -- Texts are joined, and all else is added.
    split
    · nofun
    · exact fun h => nomatch (arithmetic_eq_trap_iff.mp h).1
  | subtract | multiply | divide | modulo => exact arithmetic_eq_trap_iff

end Value

/-! ## Plain causes -/

/-- A cause that neither traps nor lies in a patch that could not be read, in a selector or in the
limit on the depth of calls. -/
def Cause.isPlain : Cause → Bool
  | .fault _ => false
  | .namelessFunction => false
  | .operator .trap => false
  | .selector _ => false
  | .path (.invalidIndexer _) => false
  | .callLimit _ => false
  | _ => true

/-- Every failure of an operator is plain that is not the trap. -/
theorem Cause.isPlain_operator {e : OperatorError} (h : e ≠ .trap) :
    (Cause.operator e).isPlain = true := by
  cases e with
  | trap => exact absurd rfl h
  | _ => rfl

/-- A plain cause does not take the program down. -/
theorem Cause.ne_trap_of_isPlain {c : Cause} (h : c.isPlain = true) : c ≠ .operator .trap := by
  rintro rfl
  cases h

/-- A plain cause does not lie in a part of a patch that could not be read. -/
theorem Cause.trouble_of_isPlain {c : Cause} (h : c.isPlain = true) : c.trouble ≠ .malformed := by
  -- The causes of a class with others are looked at one by one.
  cases c with
  | fault | namelessFunction | selector => cases h
  | operator e =>
    cases e with
    | trap => cases h
    | _ => nofun
  | path e =>
    cases e with
    | invalidIndexer text => cases h
    | _ => nofun
  | _ => nofun

/-- A check or an operation has an answer, or a plain cause to fail. -/
def Plain {α : Type} (r : Except Cause α) : Prop :=
  (match r with
    | .ok _ => true
    | .error cause => cause.isPlain) = true

namespace Plain

variable {α β : Type}

theorem ok (a : α) : Plain (.ok a) := rfl

/-- A check and what goes on behind it fail for plain causes only, if both do. -/
theorem bind {x : Except Cause α} {f : α → Except Cause β} (hx : Plain x)
    (hf : ∀ a, Plain (f a)) : Plain (x >>= f) := by
  cases x with
  | error c => exact hx
  | ok a => exact hf a

/-! ### Builtins -/

/-- A builtin that gets a closure, or too few or too many values, fails for a plain cause. -/
theorem expect (callee : String) (least most : Nat) (inputs : Inputs) :
    Plain (inputs.expect callee least most) := by
  simp only [Inputs.expect]
  split
  · rfl
  · split
    · rfl
    · rfl

theorem onlyClosure (method : String) (inputs : Inputs) :
    Plain (inputs.onlyClosure method) := by
  unfold Inputs.onlyClosure
  split
  · rfl
  · rfl

/-- What has no items fails as a value of the wrong type. -/
theorem items (m : ClosureMethod) (v : Value) : Plain (m.items v) := by
  unfold ClosureMethod.items
  split
  · rfl
  · rfl

/-- A number of decimal places that is negative, too great or not whole fails for a plain cause. -/
theorem places (v : Option Value) : Plain (Builtin.places v) := by
  unfold Builtin.places
  split
  · rfl
  · split
    · rfl
    · rfl
  · rfl

/-- What is no number cannot be rounded. -/
theorem roundTo (v : Value) (places : Nat) : Plain (Builtin.roundTo v places) := by
  unfold Builtin.roundTo
  split
  · rfl
  · rfl
  · rfl

/-- What a builtin says of its values fails for plain causes only. -/
theorem ofValues (b : Builtin) (values : List Value) : Plain (b.ofValues values) := by
  unfold Builtin.ofValues
  split
  · rfl
  · exact (places _).bind fun n => roundTo _ n
  · rfl
  · rfl
  · rfl

/-- A sum fails for an item that is no number, or at an addition. No addition is the quotient that
traps. The induction is on the items, for any total so far. -/
theorem sumFrom (total : Value) (items : List Value) : Plain (Method.sumFrom total items) := by
  induction items generalizing total with
  | nil => exact ok total
  | cons v rest ih =>
    unfold Method.sumFrom
    split
    · rfl
    · split
      · exact ih _
      · -- Sums are not quotients.
        rename_i e he
        refine Cause.isPlain_operator fun htrap => ?_
        subst htrap
        exact nomatch (Value.binary_eq_trap_iff.mp he).1

/-- The greatest and the least of some items are found by comparing, which does not trap. The
induction is on the items, for any best so far. -/
theorem extremeFrom (beats : Ordering) (best : Value) (items : List Value) :
    Plain (Method.extremeFrom beats best items) := by
  induction items generalizing best with
  | nil => exact ok best
  | cons v rest ih =>
    unfold Method.extremeFrom
    split
    · exact ih _
    · rename_i e he
      refine Cause.isPlain_operator fun htrap => ?_
      subst htrap
      exact Value.order_ne_trap _ _ _ he

theorem extreme (beats : Ordering) (items : List Value) :
    Plain (Method.extreme beats items) := by
  cases items with
  | nil => exact ok _
  | cons v rest => exact extremeFrom beats v rest

/-- A method that asks for a text fails for every other argument. -/
theorem textArgument (m : Method) (args : List Value) : Plain (m.textArgument args) := by
  unfold Method.textArgument
  split
  · rfl
  · rfl
  · rfl

/-- An object is looked into by a text, and a list by a whole number; all else fails. -/
theorem find? (receiver key : Value) : Plain (Method.find? receiver key) := by
  unfold Method.find?
  split
  · rfl
  · rfl
  · rfl

/-- What a text argument leads to does not trap if it has an answer. -/
theorem withText (m : Method) (args : List Value) {f : String → Value} :
    Plain (do return f (← m.textArgument args)) :=
  (textArgument m args).bind fun s => ok (f s)

/-- **Methods.** Whatever a method is given, it fails for plain causes only: it compares, adds and
looks things up, and divides nothing. -/
theorem apply (m : Method) (receiver : Value) (args : List Value) :
    Plain (m.apply receiver args) := by
  cases m with
  | matchesPattern =>
    refine (textArgument _ args).bind fun p => ?_
    split
    · rfl
    · rfl
    · rfl
  | sum =>
    simp only [Method.apply]
    split
    · exact sumFrom _ _
    · rfl
  | min | max =>
    simp only [Method.apply]
    split
    · exact extreme _ _
    · rfl
  | lookup => exact (find? _ _).bind fun v => ok _
  | contains =>
    simp only [Method.apply]
    split
    · rfl
    · exact withText _ args
    · exact withText _ args
    · rfl
  | startsWith | endsWith | split =>
    simp only [Method.apply]
    split
    · exact withText _ args
    · rfl
  | _ =>
    simp only [Method.apply]
    split <;> rfl

/-- The arguments of a method are counted before it is applied. -/
theorem call (m : Method) (receiver : Value) (inputs : Inputs) :
    Plain (m.call receiver inputs) :=
  (expect _ _ _ inputs).bind fun args => apply m receiver args

/-! ### Arguments -/

/-- An argument is refused if there is no parameter for it, or if it has no name and comes behind
one that has. -/
theorem position (callee : String) (slots : Slots) (name : Option String) :
    Plain (slots.position callee name) := by
  unfold Slots.position
  split
  · split
    · rfl
    · split
      · rfl
      · rfl
  · split
    · rfl
    · rfl

/-- A parameter that has been given a value takes no other. -/
theorem put (slots : Slots) (i : Nat) (v : Value) : Plain (slots.put i v) := by
  unfold Slots.put
  split
  · rfl
  · rfl
  · rfl

/-- An argument that is a closure is refused, and any other goes to its slot. -/
theorem fill (callee : String) (slots : Slots) (arg : Argument) :
    Plain (slots.fill callee arg) := by
  unfold Slots.fill
  split
  · rfl
  · exact (position callee slots arg.name).bind fun i => (put slots i _).bind fun _ => ok _

end Plain

/-- **Arguments.** The first argument that does not fit fails the call, for a plain cause. The
induction is on the arguments. -/
theorem Slots.isPlain_of_fillAll {callee : String} {args : List Argument} {slots : Slots}
    {loc : Coordinate} {cause : Cause} (h : slots.fillAll callee args = .error (loc, cause)) :
    cause.isPlain = true := by
  induction args generalizing slots with
  | nil => cases h
  | cons arg rest ih =>
    rw [fillAll] at h
    split at h
    · exact ih h
    · rename_i hfill
      cases h
      have hplain := Plain.fill callee slots arg
      rw [hfill] at hplain
      exact hplain

/-- A builtin takes any arguments that have no names. -/
theorem Inputs.ofArguments_error {callee : String} {args : List Argument} {loc : Coordinate}
    {cause : Cause} (h : ofArguments callee args = .error (loc, cause)) :
    cause = .namedRejected callee := by
  induction args with
  | nil => cases h
  | cons arg rest ih =>
    rw [ofArguments] at h
    split at h
    · cases h
      rfl
    · cases hrest : ofArguments callee rest with
      | error err =>
        rw [hrest] at h
        cases h
        exact ih hrest
      | ok inputs =>
        rw [hrest] at h
        cases hactual : arg.actual with
        | value v =>
          simp only [hactual, bind, Except.bind] at h
          cases h
        | closure c =>
          simp only [hactual, bind, Except.bind] at h
          cases h

/-! ## Paths -/

namespace Value

variable {conventions : FieldConventions}

/-- A part cannot be altered where it is not there, or where its change fails. -/
theorem isPlain_of_alter {v : Value} {segment : Segment}
    {change : Option Value → Except PathError (Option Value)} {e : PathError}
    (hchange : ∀ child e, change child = .error e → (Cause.path e).isPlain = true)
    (h : alter conventions v segment change = .error e) : (Cause.path e).isPlain = true := by
  rcases alter_eq_error h with hslot | ⟨s, _, hanswer⟩
  · rcases slot_eq_error hslot with rfl | ⟨found, rfl⟩ <;> rfl
  · exact hchange _ _ hanswer

/-- Whatever cannot be written to is a place that is not there, or of the wrong kind. -/
theorem isPlain_of_writeAt {new : Value} : ∀ {path : List Segment} {v : Value} {e : PathError},
    writeAt conventions new v path = .error e → (Cause.path e).isPlain = true
  | [], _, _, h => nomatch h
  | [_], _, _, h => by
    refine isPlain_of_alter (fun _ _ hc => ?_) h
    cases hc
  | segment :: next :: rest, v, e, h => by
    refine isPlain_of_alter (fun child e' hc => ?_) h
    cases child with
    | none =>
      cases hc
      rfl
    | some c =>
      cases hrest : writeAt conventions new c (next :: rest) with
      | ok changed =>
        simp only [hrest] at hc
        cases hc
      | error e'' =>
        simp only [hrest] at hc
        cases hc
        exact isPlain_of_writeAt hrest

end Value

end Graft
