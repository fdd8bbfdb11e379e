import Graft.Proofs.Run.Moment

/-!
What conditionals run.

A draft gives the clauses of a conditional as a list: the first condition with its body, and
those of the further branches behind it. Reading folds them into branches that are nested in one
another, and running goes down the nesting. Both are undone here: a conditional of a draft is
described by its list of clauses and by the block that may stand behind them all, at each of the
three levels of statements in the same way, and what it runs is said of the list.

The conditions are asked in the order of the list as long as all before them are false. The
conditional stops at the first one that is not: there it runs the body, or fails at the
condition. So there is at most one block that it runs, and no condition behind that is asked.
-/

set_option autoImplicit false

namespace Graft

namespace Draft

/-! ## Conditionals of drafts -/

/-- Where an expression stands. -/
def Expr.loc : Draft.Expr → Coordinate
  | .number l _ => l
  | .string l _ => l
  | .boolean l _ => l
  | .null l => l
  | .deletion l => l
  | .variable l _ => l
  | .localVariable l _ => l
  | .unary l _ _ => l
  | .binary l _ _ _ => l
  | .subscript l _ _ => l
  | .call l _ _ => l
  | .memberCall l _ _ _ => l
  | .ternary l _ _ _ => l
  | .list l _ => l
  | .object l _ => l
  | .closure l _ _ => l

/-- Reading keeps the place of an expression, also where it makes an error node of it. -/
theorem Expr.loc_read (e : Draft.Expr) : e.read.loc = e.loc := by
  cases e with
  | number loc text =>
    rw [Expr.read]
    cases numberOf? text <;> rfl
  | string loc text =>
    rw [Expr.read]
    cases Text.decode text <;> rfl
  | closure loc params body =>
    rw [Expr.read]
    by_cases htrail : defaultsTrail (readParams params) = true
    · simp only [htrail, if_true]
      rfl
    · simp only [htrail]
      rfl
  | _ => rw [Expr.read]; rfl

/-- A condition of a conditional and the block that is run if it is true. -/
structure Clause where
  loc : Coordinate
  condition : Draft.Expr
  body : List Statement

/-- A conditional, at one of the three levels of statements. -/
inductive Conditional where
  | function (loc : Coordinate) (condition : Draft.Expr) (body : List FunctionStatement)
    (elseIfs : List FunctionElseIf) (otherwise : Option (List FunctionStatement))
  | block (loc : Coordinate) (condition : Draft.Expr) (body : List BlockStatement)
    (elseIfs : List BlockElseIf) (otherwise : Option (List BlockStatement))
  | top (loc : Coordinate) (condition : Draft.Expr) (body : List TopStatement)
    (elseIfs : List TopElseIf) (otherwise : Option (List TopStatement))

/-- The clause of a further branch in a function. -/
def FunctionElseIf.clause : FunctionElseIf → Clause
  | .mk loc condition body => ⟨loc, condition, readFunctionBody body⟩

/-- The clause of a further branch in a selection or mixin. -/
def BlockElseIf.clause : BlockElseIf → Clause
  | .mk loc condition body => ⟨loc, condition, readBlock body⟩

/-- The clause of a further branch at the top of a document. -/
def TopElseIf.clause : TopElseIf → Clause
  | .mk loc condition body => ⟨loc, condition, readTop body⟩

namespace Conditional

/-- The statement of a conditional. -/
def read : Conditional → Statement
  | function loc condition body elseIfs otherwise =>
    (FunctionStatement.conditional loc condition body elseIfs otherwise).read
  | block loc condition body elseIfs otherwise =>
    (BlockStatement.conditional loc condition body elseIfs otherwise).read
  | top loc condition body elseIfs otherwise =>
    (TopStatement.conditional loc condition body elseIfs otherwise).read

/-- Where a conditional stands. -/
def loc : Conditional → Coordinate
  | function l _ _ _ _ => l
  | block l _ _ _ _ => l
  | top l _ _ _ _ => l

/-- The clauses of a conditional, in the order of the draft. -/
def clauses : Conditional → List Clause
  | function loc condition body elseIfs _ =>
    ⟨loc, condition, readFunctionBody body⟩ :: elseIfs.map FunctionElseIf.clause
  | block loc condition body elseIfs _ =>
    ⟨loc, condition, readBlock body⟩ :: elseIfs.map BlockElseIf.clause
  | top loc condition body elseIfs _ =>
    ⟨loc, condition, readTop body⟩ :: elseIfs.map TopElseIf.clause

/-- The block behind all clauses of a conditional, if there is one. -/
def otherwise : Conditional → Option (List Statement)
  | function _ _ _ _ body => body.map readFunctionBody
  | block _ _ _ _ body => body.map readBlock
  | top _ _ _ _ body => body.map readTop

end Conditional

/-- The branches that clauses and a block behind them are nested into. -/
def nested (otherwise : Option (List Statement)) : List Clause → Branches
  | [] =>
    match otherwise with
    | some body => .otherwise body
    | none => .nothing
  | c :: rest => .when c.loc c.condition.read c.body (nested otherwise rest)

theorem readFunctionElseIfs_eq (otherwise : Option (List Statement)) :
    ∀ elseIfs : List FunctionElseIf, readFunctionElseIfs elseIfs (nested otherwise []) =
      nested otherwise (elseIfs.map FunctionElseIf.clause)
  | [] => by rw [readFunctionElseIfs, List.map_nil]
  | .mk loc condition body :: rest => by
    rw [readFunctionElseIfs, readFunctionElseIfs_eq otherwise rest]
    rfl

theorem readBlockElseIfs_eq (otherwise : Option (List Statement)) :
    ∀ elseIfs : List BlockElseIf, readBlockElseIfs elseIfs (nested otherwise []) =
      nested otherwise (elseIfs.map BlockElseIf.clause)
  | [] => by rw [readBlockElseIfs, List.map_nil]
  | .mk loc condition body :: rest => by
    rw [readBlockElseIfs, readBlockElseIfs_eq otherwise rest]
    rfl

theorem readTopElseIfs_eq (otherwise : Option (List Statement)) :
    ∀ elseIfs : List TopElseIf, readTopElseIfs elseIfs (nested otherwise []) =
      nested otherwise (elseIfs.map TopElseIf.clause)
  | [] => by rw [readTopElseIfs, List.map_nil]
  | .mk loc condition body :: rest => by
    rw [readTopElseIfs, readTopElseIfs_eq otherwise rest]
    rfl

/-- At each level, reading nests the clauses of the list and changes nothing about them. -/
theorem Conditional.read_eq (d : Conditional) :
    d.read = .conditional d.loc (nested d.otherwise d.clauses) := by
  cases d with
  | function loc condition body elseIfs otherwise =>
    have helse := readFunctionElseIfs_eq (otherwise.map readFunctionBody) elseIfs
    rw [Conditional.clauses, nested, Conditional.otherwise, ← helse]
    cases otherwise <;> rw [Conditional.read, FunctionStatement.read] <;> rfl
  | block loc condition body elseIfs otherwise =>
    have helse := readBlockElseIfs_eq (otherwise.map readBlock) elseIfs
    rw [Conditional.clauses, nested, Conditional.otherwise, ← helse]
    cases otherwise <;> rw [Conditional.read, BlockStatement.read] <;> rfl
  | top loc condition body elseIfs otherwise =>
    have helse := readTopElseIfs_eq (otherwise.map readTop) elseIfs
    rw [Conditional.clauses, nested, Conditional.otherwise, ← helse]
    cases otherwise <;> rw [Conditional.read, TopStatement.read] <;> rfl

end Draft

open Draft (Clause nested)

namespace Run

/-! ## Going through clauses -/

/-- The conditions of clauses are false, each on the machine that the ones before have left. -/
inductive Refused (test : Expr → Run Value) : List Clause → Machine → Machine → Prop
  | nil (m : Machine) : Refused test [] m m
  | cons {c : Clause} {rest : List Clause} {m m₁ m₂ : Machine} :
    test c.condition.read m = .ok (.bool false) m₁ → Refused test rest m₁ m₂ →
    Refused test (c :: rest) m m₂

/-- The condition of a clause is asked on a machine: all conditions before it are false, and
this is the machine that they leave. -/
inductive Asked (test : Expr → Run Value) : List Clause → Machine → Clause → Machine → Prop
  | behind (before : List Clause) {c : Clause} {after : List Clause} {m m₁ : Machine} :
    Refused test before m m₁ → Asked test (before ++ c :: after) m c m₁

/-- The block that is run, and the machine on which it is chosen. It is the one of the first
condition that is true, or, if all are false, the one behind the clauses. -/
inductive Chosen (test : Expr → Run Value) (clauses : List Clause)
    (otherwise : Option (List Statement)) (m : Machine) : List Statement → Machine → Prop
  | clause {c : Clause} {m₁ m₂ : Machine} :
    Asked test clauses m c m₁ → test c.condition.read m₁ = .ok (.bool true) m₂ →
    Chosen test clauses otherwise m c.body m₂
  | otherwise {body : List Statement} {m₁ : Machine} :
    Refused test clauses m m₁ → otherwise = some body → Chosen test clauses otherwise m body m₁

/-- How a conditional ends. -/
inductive Decided (test : Expr → Run Value) (run : List Statement → Run Flow)
    (clauses : List Clause) (otherwise : Option (List Statement)) (m : Machine) :
    EStateM.Result Halt Machine Flow → Prop
  /-- As the block that is run does. -/
  | chosen {body : List Statement} {m₁ : Machine} :
    Chosen test clauses otherwise m body m₁ → Decided test run clauses otherwise m (run body m₁)
  | nothing {m₁ : Machine} :
    Refused test clauses m m₁ → otherwise = none →
    Decided test run clauses otherwise m (.ok .next m₁)
  | notBoolean {c : Clause} {m₁ m₂ : Machine} {v : Value} :
    Asked test clauses m c m₁ → test c.condition.read m₁ = .ok v m₂ → (∀ b, v ≠ .bool b) →
    Decided test run clauses otherwise m
      (.error (.failed ⟨c.condition.loc, .notBoolean v.typeName⟩) m₂)
  | halted {c : Clause} {m₁ m₂ : Machine} {e : Halt} :
    Asked test clauses m c m₁ → test c.condition.read m₁ = .error e m₂ →
    Decided test run clauses otherwise m (.error e m₂)

section

variable {test : Expr → Run Value} {c c' : Clause} {rest clauses : List Clause}
  {otherwise : Option (List Statement)} {body : List Statement} {m m₁ m₂ : Machine}

theorem not_asked_nil : ¬ Asked test [] m c m₁ := by
  intro h
  generalize hnil : ([] : List Clause) = all at h
  obtain @⟨before, _, _, _, _, _⟩ := h
  cases before <;> cases hnil

/-- The first condition is asked at once, and the others once it is false. -/
theorem asked_cons_iff :
    Asked test (c :: rest) m c' m₂ ↔
      (c' = c ∧ m₂ = m) ∨
      ∃ m₁, test c.condition.read m = .ok (.bool false) m₁ ∧ Asked test rest m₁ c' m₂ := by
  constructor
  · intro h
    generalize hall : c :: rest = all at h
    obtain @⟨before, _, after, _, _, hbefore⟩ := h
    cases hbefore with
    | nil =>
      cases hall
      exact .inl ⟨rfl, rfl⟩
    | cons hfalse hbefore =>
      cases hall
      exact .inr ⟨_, hfalse, .behind _ hbefore⟩
  · rintro (⟨rfl, rfl⟩ | ⟨m₁, hfalse, hasked⟩)
    · exact .behind [] (.nil _)
    · obtain ⟨before, hbefore⟩ := hasked
      exact .behind (c :: before) (.cons hfalse hbefore)

/-- Where there is no clause, the block behind the clauses is run. -/
theorem chosen_nil_iff :
    Chosen test [] otherwise m body m₁ ↔ otherwise = some body ∧ m₁ = m := by
  constructor
  · intro h
    cases h with
    | clause hasked _ => exact absurd hasked not_asked_nil
    | otherwise hrefused hbody =>
      cases hrefused
      exact ⟨hbody, rfl⟩
  · rintro ⟨hbody, rfl⟩
    exact .otherwise (.nil _) hbody

/-- The block of the first clause is run if its condition is true, and if that is false, it goes
on with the others. -/
theorem chosen_cons_iff :
    Chosen test (c :: rest) otherwise m body m₂ ↔
      (test c.condition.read m = .ok (.bool true) m₂ ∧ body = c.body) ∨
      ∃ m₁, test c.condition.read m = .ok (.bool false) m₁ ∧
        Chosen test rest otherwise m₁ body m₂ := by
  constructor
  · intro h
    cases h with
    | clause hasked htrue =>
      rcases asked_cons_iff.mp hasked with ⟨rfl, rfl⟩ | ⟨m₁, hfalse, hasked⟩
      · exact .inl ⟨htrue, rfl⟩
      · exact .inr ⟨m₁, hfalse, .clause hasked htrue⟩
    | otherwise hrefused hbody =>
      cases hrefused with
      | cons hfalse hrefused => exact .inr ⟨_, hfalse, .otherwise hrefused hbody⟩
  · rintro (⟨htrue, rfl⟩ | ⟨m₁, hfalse, hchosen⟩)
    · exact .clause (asked_cons_iff.mpr (.inl ⟨rfl, rfl⟩)) htrue
    · cases hchosen with
      | clause hasked htrue => exact .clause (asked_cons_iff.mpr (.inr ⟨m₁, hfalse, hasked⟩)) htrue
      | otherwise hrefused hbody => exact .otherwise (.cons hfalse hrefused) hbody

/-- Either all conditions are false, or one that is asked is not. -/
theorem refused_or_asked (test : Expr → Run Value) (clauses : List Clause) (m : Machine) :
    (∃ m₁, Refused test clauses m m₁) ∨
      ∃ c m₁, Asked test clauses m c m₁ ∧
        ∀ m₂, test c.condition.read m₁ ≠ .ok (.bool false) m₂ := by
  induction clauses generalizing m with
  | nil => exact .inl ⟨m, .nil m⟩
  | cons c rest ih =>
    by_cases hfalse : ∃ m₁, test c.condition.read m = .ok (.bool false) m₁
    · obtain ⟨m₁, hfalse⟩ := hfalse
      rcases ih m₁ with ⟨m₂, hrefused⟩ | ⟨c', m₂, hasked, hstop⟩
      · exact .inl ⟨m₂, .cons hfalse hrefused⟩
      · exact .inr ⟨c', m₂, asked_cons_iff.mpr (.inr ⟨m₁, hfalse, hasked⟩), hstop⟩
    · refine .inr ⟨c, m, asked_cons_iff.mpr (.inl ⟨rfl, rfl⟩), fun m₂ h => hfalse ⟨m₂, h⟩⟩

/-- There is at most one block that is run, and one machine on which it is chosen. -/
theorem Chosen.unique {body' : List Statement} (h : Chosen test clauses otherwise m body m₁)
    (h' : Chosen test clauses otherwise m body' m₂) : body = body' ∧ m₁ = m₂ := by
  induction clauses generalizing m with
  | nil =>
    obtain ⟨hbody, rfl⟩ := chosen_nil_iff.mp h
    obtain ⟨hbody', rfl⟩ := chosen_nil_iff.mp h'
    exact ⟨Option.some.inj (hbody.symm.trans hbody'), rfl⟩
  | cons c rest ih =>
    -- The first condition has one answer, which says where the block is.
    rcases chosen_cons_iff.mp h with ⟨htrue, rfl⟩ | ⟨n, hfalse, hrest⟩
    · rcases chosen_cons_iff.mp h' with ⟨htrue', rfl⟩ | ⟨n', hfalse', -⟩
      · cases htrue.symm.trans htrue'
        exact ⟨rfl, rfl⟩
      · cases htrue.symm.trans hfalse'
    · rcases chosen_cons_iff.mp h' with ⟨htrue', rfl⟩ | ⟨n', hfalse', hrest'⟩
      · cases hfalse.symm.trans htrue'
      · cases hfalse.symm.trans hfalse'
        exact ih hrest hrest'

/-- No block is run where a condition that is asked is neither true nor false. -/
theorem not_chosen_of_asked {v : Value} (hasked : Asked test clauses m c m₁)
    (hv : test c.condition.read m₁ = .ok v m₂) (hbool : ∀ b, v ≠ .bool b) {m₃ : Machine} :
    ¬ Chosen test clauses otherwise m body m₃ := by
  induction clauses generalizing m with
  | nil => exact absurd hasked not_asked_nil
  | cons c' rest ih =>
    intro hchosen
    rcases asked_cons_iff.mp hasked with ⟨rfl, rfl⟩ | ⟨m', hfalse, hasked⟩
    · -- The first condition is the one, so it stops there.
      rcases chosen_cons_iff.mp hchosen with ⟨htrue, -⟩ | ⟨_, hfalse, -⟩
      · cases hv.symm.trans htrue
        exact hbool true rfl
      · cases hv.symm.trans hfalse
        exact hbool false rfl
    · rcases chosen_cons_iff.mp hchosen with ⟨htrue, -⟩ | ⟨_, hfalse', hchosen⟩
      · cases hfalse.symm.trans htrue
      · cases hfalse.symm.trans hfalse'
        exact ih hasked hchosen

end

/-! ## Running branches -/

/-- The body of a branch, in a frame of its own. -/
def branchBody (p : Provision) (enter : Enter) (env : Environment) (ctx : Context)
    (body : List Statement) : Run Flow := do
  let scope ← child env
  runBlock p enter scope ctx body

section

variable {p : Provision} {enter : Enter} {env : Environment} {ctx : Context}

/-- Behind conditions that are false, the other branches are run. -/
theorem Refused.runBranches_append {before : List Clause} {m m₁ : Machine}
    (h : Refused (evaluate p enter env ctx) before m m₁) (otherwise : Option (List Statement))
    (rest : List Clause) :
    runBranches p enter env ctx (nested otherwise (before ++ rest)) m =
      runBranches p enter env ctx (nested otherwise rest) m₁ := by
  induction h with
  | nil m => rfl
  | cons hfalse _ ih =>
    rw [List.cons_append, nested, runBranches, bind_ok hfalse]
    exact ih

/-- Where a condition is asked, the branches end as those that begin with it do. -/
theorem Asked.runBranches_eq {clauses : List Clause} {c : Clause} {m m₁ : Machine}
    (h : Asked (evaluate p enter env ctx) clauses m c m₁) (otherwise : Option (List Statement)) :
    ∃ rest, runBranches p enter env ctx (nested otherwise clauses) m =
      runBranches p enter env ctx (nested otherwise (c :: rest)) m₁ := by
  obtain @⟨before, _, after, _, _, hbefore⟩ := h
  exact ⟨after, hbefore.runBranches_append otherwise _⟩

theorem Refused.runBranches_eq {clauses : List Clause} {m m₁ : Machine}
    (h : Refused (evaluate p enter env ctx) clauses m m₁) (otherwise : Option (List Statement)) :
    runBranches p enter env ctx (nested otherwise clauses) m =
      runBranches p enter env ctx (nested otherwise []) m₁ := by
  have happend := h.runBranches_append otherwise []
  rwa [List.append_nil] at happend

/-- What a conditional comes to is how its branches end. -/
theorem Decided.runBranches_eq {clauses : List Clause} {otherwise : Option (List Statement)}
    {m : Machine} {r : EStateM.Result Halt Machine Flow}
    (h : Decided (evaluate p enter env ctx) (branchBody p enter env ctx) clauses otherwise m r) :
    runBranches p enter env ctx (nested otherwise clauses) m = r := by
  cases h with
  | chosen hchosen =>
    cases hchosen with
    | clause hasked htrue =>
      obtain ⟨rest, hrun⟩ := hasked.runBranches_eq otherwise
      rw [hrun, nested, runBranches, bind_ok htrue]
      rfl
    | otherwise hrefused hbody =>
      rw [hrefused.runBranches_eq, hbody, nested, runBranches]
      rfl
  | nothing hrefused hnone =>
    rw [hrefused.runBranches_eq, hnone, nested, runBranches]
    rfl
  | notBoolean hasked hv hbool =>
    obtain ⟨rest, hrun⟩ := hasked.runBranches_eq otherwise
    rw [hrun, nested, runBranches, bind_ok hv, Draft.Expr.loc_read]
    split
    · exact absurd rfl (hbool true)
    · exact absurd rfl (hbool false)
    · rfl
  | halted hasked hhalt =>
    obtain ⟨rest, hrun⟩ := hasked.runBranches_eq otherwise
    rw [hrun, nested, runBranches, bind_error hhalt]

/-- There is always something that a conditional comes to. -/
theorem exists_decided (test : Expr → Run Value) (run : List Statement → Run Flow)
    (clauses : List Clause) (otherwise : Option (List Statement)) (m : Machine) :
    ∃ r, Decided test run clauses otherwise m r := by
  rcases refused_or_asked test clauses m with ⟨m₁, hrefused⟩ | ⟨c, m₁, hasked, hstop⟩
  · cases hotherwise : otherwise with
    | some body => exact ⟨_, .chosen (.otherwise hrefused rfl)⟩
    | none => exact ⟨_, .nothing hrefused rfl⟩
  · cases hc : test c.condition.read m₁ with
    | error e m₂ => exact ⟨_, .halted hasked hc⟩
    | ok v m₂ =>
      by_cases hbool : ∃ b, v = .bool b
      · obtain ⟨b, rfl⟩ := hbool
        cases b with
        | true => exact ⟨_, .chosen (.clause hasked hc)⟩
        | false => exact absurd hc (hstop m₂)
      · exact ⟨_, .notBoolean hasked hc fun b hb => hbool ⟨b, hb⟩⟩

theorem runBranches_eq_iff (clauses : List Clause) (otherwise : Option (List Statement))
    (m : Machine) (r : EStateM.Result Halt Machine Flow) :
    runBranches p enter env ctx (nested otherwise clauses) m = r ↔
      Decided (evaluate p enter env ctx) (branchBody p enter env ctx) clauses otherwise m r := by
  constructor
  · rintro rfl
    obtain ⟨r, hdecided⟩ := exists_decided (evaluate p enter env ctx) (branchBody p enter env ctx)
      clauses otherwise m
    rw [hdecided.runBranches_eq]
    exact hdecided
  · exact Decided.runBranches_eq

end

end Run

/-! ## What a conditional runs itself -/

namespace Moment

open Run

/-- What a moment comes to through nothing but branches: the conditions that are evaluated and
the blocks that are run, but not what goes on inside of them. -/
inductive Tries (p : Provision) : Moment → Moment → Prop
  | condition {μ : Moment} {l : Nat} {env : Environment} {ctx : Context} {e : Expr} {m : Machine} :
    Next p μ ⟨l, .expr env ctx e, m⟩ → Tries p μ ⟨l, .expr env ctx e, m⟩
  | block {μ : Moment} {l : Nat} {env : Environment} {ctx : Context} {body : List Statement}
    {m : Machine} :
    Next p μ ⟨l, .block env ctx body, m⟩ → Tries p μ ⟨l, .block env ctx body, m⟩
  | branches {μ ν : Moment} {l : Nat} {env : Environment} {ctx : Context} {branches : Branches}
    {m : Machine} :
    Next p μ ⟨l, .branches env ctx branches, m⟩ → Tries p ⟨l, .branches env ctx branches, m⟩ ν →
    Tries p μ ν

variable {p : Provision} {l : Nat} {env : Environment} {ctx : Context} {m : Machine} {ν : Moment}

theorem tries_conditional_iff {loc : Coordinate} {branches : Branches} :
    Tries p ⟨l, .statement env ctx (.conditional loc branches), m⟩ ν ↔
      Tries p ⟨l, .branches env ctx branches, m⟩ ν := by
  constructor
  · intro h
    cases h with
    | condition h | block h => cases h
    | branches hnext htries =>
      cases hnext
      exact htries
  · exact .branches .conditional

theorem not_tries_nothing : ¬ Tries p ⟨l, .branches env ctx .nothing, m⟩ ν := by
  intro h
  cases h with
  | condition h | block h | branches h _ => cases h

theorem tries_otherwise_iff {body : List Statement} :
    Tries p ⟨l, .branches env ctx (.otherwise body), m⟩ ν ↔
      ν = ⟨l, .block (env.child m.frames).1 ctx body, m.opened⟩ := by
  constructor
  · intro h
    cases h with
    | condition h | branches h _ => cases h
    | block h =>
      cases h with
      | otherwise hchild =>
        cases hchild
        rfl
  · rintro rfl
    exact .block (.otherwise rfl)

theorem tries_when_iff {loc : Coordinate} {c : Expr} {body : List Statement} {rest : Branches} :
    Tries p ⟨l, .branches env ctx (.when loc c body rest), m⟩ ν ↔
      ν = ⟨l, .expr env ctx c, m⟩ ∨
      (∃ m₁, evaluate p (enterWithin p l) env ctx c m = .ok (.bool true) m₁ ∧
        ν = ⟨l, .block (env.child m₁.frames).1 ctx body, m₁.opened⟩) ∨
      ∃ m₁, evaluate p (enterWithin p l) env ctx c m = .ok (.bool false) m₁ ∧
        Tries p ⟨l, .branches env ctx rest, m₁⟩ ν := by
  constructor
  · intro h
    cases h with
    | condition h =>
      cases h
      exact .inl rfl
    | block h =>
      cases h with
      | passed htrue hchild =>
        cases hchild
        exact .inr (.inl ⟨_, htrue, rfl⟩)
    | branches hnext htries =>
      cases hnext with
      | otherBranches hfalse => exact .inr (.inr ⟨_, hfalse, htries⟩)
  · rintro (rfl | ⟨m₁, htrue, rfl⟩ | ⟨m₁, hfalse, htries⟩)
    · exact .condition .test
    · exact .block (.passed htrue rfl)
    · exact .branches (.otherBranches hfalse) htries

/-- Nested branches evaluate the conditions that are asked, and run the block that is chosen. -/
theorem tries_nested_iff {otherwise : Option (List Statement)} (clauses : List Clause) :
    Tries p ⟨l, .branches env ctx (nested otherwise clauses), m⟩ ν ↔
      (∃ c m₁, Asked (evaluate p (enterWithin p l) env ctx) clauses m c m₁ ∧
        ν = ⟨l, .expr env ctx c.condition.read, m₁⟩) ∨
      ∃ body m₁, Chosen (evaluate p (enterWithin p l) env ctx) clauses otherwise m body m₁ ∧
        ν = ⟨l, .block (env.child m₁.frames).1 ctx body, m₁.opened⟩ := by
  induction clauses generalizing m with
  | nil =>
    have hasked : ¬ ∃ c m₁, Asked (evaluate p (enterWithin p l) env ctx) [] m c m₁ ∧
        ν = ⟨l, .expr env ctx c.condition.read, m₁⟩ :=
      fun ⟨_, _, hasked, _⟩ => not_asked_nil hasked
    rw [or_iff_right hasked]
    simp only [chosen_nil_iff]
    cases otherwise with
    | none =>
      rw [nested, iff_false_left not_tries_nothing]
      rintro ⟨body, m₁, ⟨hbody, -⟩, -⟩
      cases hbody
    | some body =>
      rw [nested, tries_otherwise_iff]
      constructor
      · rintro rfl
        exact ⟨body, m, ⟨rfl, rfl⟩, rfl⟩
      · rintro ⟨_, _, ⟨hbody, rfl⟩, rfl⟩
        cases hbody
        rfl
  | cons c rest ih =>
    rw [nested, tries_when_iff]
    simp only [ih, asked_cons_iff, chosen_cons_iff]
    constructor
    · rintro (rfl | ⟨m₁, htrue, rfl⟩ | ⟨m₁, hfalse, ⟨c', m₂, hasked, rfl⟩ |
        ⟨body, m₂, hchosen, rfl⟩⟩)
      · exact .inl ⟨c, m, .inl ⟨rfl, rfl⟩, rfl⟩
      · exact .inr ⟨c.body, m₁, .inl ⟨htrue, rfl⟩, rfl⟩
      · exact .inl ⟨c', m₂, .inr ⟨m₁, hfalse, hasked⟩, rfl⟩
      · exact .inr ⟨body, m₂, .inr ⟨m₁, hfalse, hchosen⟩, rfl⟩
    · rintro (⟨c', m₂, ⟨rfl, rfl⟩ | ⟨m₁, hfalse, hasked⟩, rfl⟩ |
        ⟨body, m₂, ⟨htrue, rfl⟩ | ⟨m₁, hfalse, hchosen⟩, rfl⟩)
      · exact .inl rfl
      · exact .inr (.inr ⟨m₁, hfalse, .inl ⟨c', m₂, hasked, rfl⟩⟩)
      · exact .inr (.inl ⟨m₂, htrue, rfl⟩)
      · exact .inr (.inr ⟨m₁, hfalse, .inr ⟨body, m₂, hchosen, rfl⟩⟩)

end Moment

/-- **The first true branch.** However many clauses a conditional of a draft has, at whatever
level it stands and from whatever machine it runs, it ends as its list of clauses says: it runs
the block of the first condition that is true, or the one behind all of them, or none. The
conditions that it evaluates are those whose predecessors are all false, in the order of the
list, and no others. The block is the only one that it runs, in a frame that it opens for it. If
a condition that is evaluated yields anything but a truth value, that is a type error at this
condition, and no block is run. -/
theorem Run.runStatement_conditional (p : Provision) (levels : Nat) (env : Environment)
    (ctx : Context) (d : Draft.Conditional) (m : Machine) :
    let enter := enterWithin p levels
    let test := evaluate p enter env ctx
    (∀ r, runStatement p enter env ctx d.read m = r ↔
      Decided test (branchBody p enter env ctx) d.clauses d.otherwise m r) ∧
    (∀ ν, Moment.Tries p ⟨levels, .statement env ctx d.read, m⟩ ν ↔
      (∃ c m₁, Asked test d.clauses m c m₁ ∧ ν = ⟨levels, .expr env ctx c.condition.read, m₁⟩) ∨
      ∃ body m₁, Chosen test d.clauses d.otherwise m body m₁ ∧
        ν = ⟨levels, .block (env.child m₁.frames).1 ctx body, m₁.opened⟩) ∧
    (∀ body m₁ body' m₂, Chosen test d.clauses d.otherwise m body m₁ →
      Chosen test d.clauses d.otherwise m body' m₂ → body = body' ∧ m₁ = m₂) ∧
    ∀ c m₁ v m₂, Asked test d.clauses m c m₁ → test c.condition.read m₁ = .ok v m₂ →
      (∀ b, v ≠ .bool b) →
      (∃ f : Failure, runStatement p enter env ctx d.read m = .error (.failed f) m₂ ∧
        f.loc = c.condition.loc ∧ f.cause.trouble = .type) ∧
      ∀ body m₃, ¬ Chosen test d.clauses d.otherwise m body m₃ := by
  intro enter test
  have hends : ∀ r, runStatement p enter env ctx d.read m = r ↔
      Decided test (branchBody p enter env ctx) d.clauses d.otherwise m r := by
    intro r
    rw [d.read_eq, runStatement]
    exact runBranches_eq_iff d.clauses d.otherwise m r
  refine ⟨hends, fun ν => ?_, fun body m₁ body' m₂ => Chosen.unique,
    fun c m₁ v m₂ hasked hv hbool => ⟨?_, fun body m₃ => ?_⟩⟩
  · rw [d.read_eq, Moment.tries_conditional_iff]
    exact Moment.tries_nested_iff d.clauses
  · exact ⟨_, (hends _).mpr (.notBoolean hasked hv hbool), rfl, rfl⟩
  · exact not_chosen_of_asked hasked hv hbool

/-- In a function, `if false {} else if true { return true } else if null {} else {}` returns
from its second branch. With the second condition as the third, it fails at `null`. -/
theorem Run.runStatement_conditional_elseIf :
    let p : Provision := ⟨.withActiveMods [], .standard⟩
    let m := (Machine.start (Host.empty [])).2
    let place : Coordinate := ⟨"", 3, 1⟩
    let passing : Draft.FunctionElseIf :=
      .mk .origin (.boolean .origin true) [.ret .origin (some (.boolean .origin true))]
    let failing : Draft.FunctionElseIf := .mk .origin (.null place) []
    let d (elseIfs : List Draft.FunctionElseIf) : Draft.Conditional :=
      .function .origin (.boolean .origin false) [] elseIfs (some [])
    runStatement p (enterWithin p 1) default default (d [passing, failing]).read m =
      .ok (.returned (.bool true)) m.opened ∧
    ∃ f : Failure, runStatement p (enterWithin p 1) default default (d [failing, passing]).read m =
      .error (.failed f) m ∧ f.loc = place ∧ f.cause.trouble = .type := by
  intro p m place passing failing d
  let test := evaluate p (enterWithin p 1) default default
  let first : Draft.Clause := ⟨.origin, .boolean .origin false, []⟩
  have hfirst : Refused test [first] m m := .cons rfl (.nil m)
  constructor
  · have hends := (runStatement_conditional p 1 default default (d [passing, failing]) m).1
    have hasked : Asked test (d [passing, failing]).clauses m passing.clause m :=
      .behind [first] hfirst
    exact (hends _).mpr (.chosen (.clause hasked rfl))
  · have hfails := (runStatement_conditional p 1 default default (d [failing, passing]) m).2.2.2
    have hasked : Asked test (d [failing, passing]).clauses m failing.clause m :=
      .behind [first] hfirst
    exact (hfails failing.clause m .null m hasked rfl (fun b hb => by cases hb)).1

end Graft
