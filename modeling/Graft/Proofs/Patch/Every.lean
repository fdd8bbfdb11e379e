import Graft.Registry

/-!
What holds of every statement of a patch, at whatever depth it stands.

Statements contain expressions, expressions contain closures, and closures contain
statements again. `Statement.Every P` says that a property `P` of single statements holds
of a statement and of all statements inside it; the same is said of expressions,
parameters, branches and lists of them. The properties that matter here are about kinds of
statements: what a function may hold, what a selection may hold, and whether there are
edits, inclusions or imports at all.
-/

set_option autoImplicit false

namespace Graft

mutual

/-- `P` holds of all statements inside an expression, which are those of its closures. -/
def Expr.Every (P : Statement → Prop) : Expr → Prop
  | .literal _ _ => True
  | .variable _ _ => True
  | .localVariable _ _ => True
  | .unary _ _ operand => operand.Every P
  | .binary _ _ left right => left.Every P ∧ right.Every P
  | .subscript _ target index => target.Every P ∧ index.Every P
  | .call _ _ args => Arg.EveryIn P args
  | .memberCall _ target _ args => target.Every P ∧ Arg.EveryIn P args
  | .ternary _ condition whenTrue whenFalse =>
    condition.Every P ∧ whenTrue.Every P ∧ whenFalse.Every P
  | .list _ items => Expr.EveryIn P items
  | .object _ entries => Entry.EveryIn P entries
  | .closure _ params body => Param.EveryIn P params ∧ Statement.EveryIn P body
  | .error _ _ => True

/-- `P` holds of all statements inside expressions. -/
def Expr.EveryIn (P : Statement → Prop) : List Expr → Prop
  | [] => True
  | e :: rest => e.Every P ∧ Expr.EveryIn P rest

/-- `P` holds of all statements inside arguments. -/
def Arg.EveryIn (P : Statement → Prop) : List Arg → Prop
  | [] => True
  | .mk _ _ e :: rest => e.Every P ∧ Arg.EveryIn P rest

/-- `P` holds of all statements inside entries. -/
def Entry.EveryIn (P : Statement → Prop) : List Entry → Prop
  | [] => True
  | .mk _ _ e :: rest => e.Every P ∧ Entry.EveryIn P rest

/-- `P` holds of all statements inside a default or a returned expression, if there is one. -/
def Expr.EveryOf (P : Statement → Prop) : Option Expr → Prop
  | none => True
  | some e => e.Every P

/-- `P` holds of all statements inside the defaults of parameters. -/
def Param.EveryIn (P : Statement → Prop) : List Param → Prop
  | [] => True
  | .mk _ _ default :: rest => Expr.EveryOf P default ∧ Param.EveryIn P rest

/-- `P` holds of a statement and of all statements inside it. -/
def Statement.Every (P : Statement → Prop) : Statement → Prop
  | .declare loc name e => P (.declare loc name e) ∧ e.Every P
  | .conditional loc branches => P (.conditional loc branches) ∧ branches.Every P
  | .ret loc e => P (.ret loc e) ∧ Expr.EveryOf P e
  | .forRange loc name first last end_ body =>
    P (.forRange loc name first last end_ body) ∧ first.Every P ∧ last.Every P ∧
      Statement.EveryIn P body
  | .forEach loc key name iterable body =>
    P (.forEach loc key name iterable body) ∧ iterable.Every P ∧ Statement.EveryIn P body
  | .whileTrue loc condition body =>
    P (.whileTrue loc condition body) ∧ condition.Every P ∧ Statement.EveryIn P body
  | .set loc e => P (.set loc e) ∧ e.Every P
  | .delete loc => P (.delete loc)
  | .merge loc e => P (.merge loc e) ∧ e.Every P
  | .field loc key indexer e => P (.field loc key indexer e) ∧ e.Every P
  | .includeMixin loc name args => P (.includeMixin loc name args) ∧ Arg.EveryIn P args
  | .selection loc attributes selector body =>
    P (.selection loc attributes selector body) ∧ Statement.EveryIn P body
  | .expression loc e => P (.expression loc e) ∧ e.Every P
  | .importLibrary loc name => P (.importLibrary loc name)
  | .stage loc name priority => P (.stage loc name priority)
  | .function loc name params body =>
    P (.function loc name params body) ∧ Param.EveryIn P params ∧ Statement.EveryIn P body
  | .mixin loc name params body =>
    P (.mixin loc name params body) ∧ Param.EveryIn P params ∧ Statement.EveryIn P body
  | .error loc fault => P (.error loc fault)

/-- `P` holds of all statements in a list and inside those. -/
def Statement.EveryIn (P : Statement → Prop) : List Statement → Prop
  | [] => True
  | s :: rest => s.Every P ∧ Statement.EveryIn P rest

/-- `P` holds of all statements inside branches. -/
def Branches.Every (P : Statement → Prop) : Branches → Prop
  | .nothing => True
  | .otherwise body => Statement.EveryIn P body
  | .when _ condition body rest =>
    condition.Every P ∧ Statement.EveryIn P body ∧ rest.Every P

end

/-- `P` holds of all statements of a routine: those of its body and of its defaults. -/
structure Routine.Every (P : Statement → Prop) (r : Routine) : Prop where
  params : Param.EveryIn P r.params
  body : Statement.EveryIn P r.body

/-! ## Properties that all statements have -/

section

variable {P : Statement → Prop}

mutual

/-- What holds of all statements holds of those inside an expression. The induction is on the
structure of patches, as in all that follows here. -/
theorem Expr.every_of (h : ∀ s, P s) : ∀ e : Expr, e.Every P
  | .literal _ _ => trivial
  | .variable _ _ => trivial
  | .localVariable _ _ => trivial
  | .unary _ _ operand => operand.every_of h
  | .binary _ _ left right => ⟨left.every_of h, right.every_of h⟩
  | .subscript _ target index => ⟨target.every_of h, index.every_of h⟩
  | .call _ _ args => Arg.everyIn_of h args
  | .memberCall _ target _ args => ⟨target.every_of h, Arg.everyIn_of h args⟩
  | .ternary _ condition whenTrue whenFalse =>
    ⟨condition.every_of h, whenTrue.every_of h, whenFalse.every_of h⟩
  | .list _ items => Expr.everyIn_of h items
  | .object _ entries => Entry.everyIn_of h entries
  | .closure _ params body => ⟨Param.everyIn_of h params, Statement.everyIn_of h body⟩
  | .error _ _ => trivial

theorem Expr.everyIn_of (h : ∀ s, P s) : ∀ es : List Expr, Expr.EveryIn P es
  | [] => trivial
  | e :: rest => ⟨e.every_of h, Expr.everyIn_of h rest⟩

/-- The statements inside an argument are those of its expression; its name holds none. -/
theorem Arg.everyIn_of (h : ∀ s, P s) : ∀ args : List Arg, Arg.EveryIn P args
  | [] => trivial
  | .mk _ _ e :: rest => ⟨e.every_of h, Arg.everyIn_of h rest⟩

theorem Entry.everyIn_of (h : ∀ s, P s) : ∀ entries : List Entry, Entry.EveryIn P entries
  | [] => trivial
  | .mk _ _ e :: rest => ⟨e.every_of h, Entry.everyIn_of h rest⟩

theorem Expr.everyOf_of (h : ∀ s, P s) : ∀ e : Option Expr, Expr.EveryOf P e
  | none => trivial
  | some e => e.every_of h

/-- The statements inside a parameter are those of its default, if it has one. -/
theorem Param.everyIn_of (h : ∀ s, P s) : ∀ params : List Param, Param.EveryIn P params
  | [] => trivial
  | .mk _ _ default :: rest => ⟨Expr.everyOf_of h default, Param.everyIn_of h rest⟩

/-- What holds of all statements holds of a statement and of all that stand inside it: in its
expressions, in its branches and in its body. -/
theorem Statement.every_of (h : ∀ s, P s) : ∀ s : Statement, s.Every P
  | .declare _ _ e => ⟨h _, e.every_of h⟩
  | .conditional _ branches => ⟨h _, branches.every_of h⟩
  | .ret _ e => ⟨h _, Expr.everyOf_of h e⟩
  | .forRange _ _ first last _ body =>
    ⟨h _, first.every_of h, last.every_of h, Statement.everyIn_of h body⟩
  | .forEach _ _ _ iterable body => ⟨h _, iterable.every_of h, Statement.everyIn_of h body⟩
  | .whileTrue _ condition body => ⟨h _, condition.every_of h, Statement.everyIn_of h body⟩
  | .set _ e => ⟨h _, e.every_of h⟩
  | .delete _ => h _
  | .merge _ e => ⟨h _, e.every_of h⟩
  | .field _ _ _ e => ⟨h _, e.every_of h⟩
  | .includeMixin _ _ args => ⟨h _, Arg.everyIn_of h args⟩
  | .selection _ _ _ body => ⟨h _, Statement.everyIn_of h body⟩
  | .expression _ e => ⟨h _, e.every_of h⟩
  | .importLibrary _ _ => h _
  | .stage _ _ _ => h _
  | .function _ _ params body => ⟨h _, Param.everyIn_of h params, Statement.everyIn_of h body⟩
  | .mixin _ _ params body => ⟨h _, Param.everyIn_of h params, Statement.everyIn_of h body⟩
  | .error _ _ => h _

/-- What holds of all statements holds of those of a list and of all inside them. -/
theorem Statement.everyIn_of (h : ∀ s, P s) : ∀ ss : List Statement, Statement.EveryIn P ss
  | [] => trivial
  | s :: rest => ⟨s.every_of h, Statement.everyIn_of h rest⟩

/-- What holds of all statements holds of those inside branches, conditions included. -/
theorem Branches.every_of (h : ∀ s, P s) : ∀ b : Branches, b.Every P
  | .nothing => trivial
  | .otherwise body => Statement.everyIn_of h body
  | .when _ condition body rest =>
    ⟨condition.every_of h, Statement.everyIn_of h body, rest.every_of h⟩

end

/-- What holds of all statements holds of those of a routine, in its defaults and in its body. -/
theorem Routine.every_of (h : ∀ s, P s) (r : Routine) : r.Every P :=
  ⟨Param.everyIn_of h r.params, Statement.everyIn_of h r.body⟩

end

end Graft
