import Graft.Proofs.Patch.Levels

/-!
Where the statements of a patch stand.

A statement stands at one of three levels: at the top of a document, in the body of a
selection or a mixin, or in the body of a function or a closure. Branches and loops keep the
level of what they stand in; selections, mixins, functions and closures begin a level of
their own. Each level admits some kinds of statements only. A patch has one type for all of
them, so that they stand where they may is a property of the patch, and reading a draft
brings it about.
-/

set_option autoImplicit false

namespace Graft

/-- Where statements stand. -/
inductive Level where
  /-- At the top of a document, or in a branch there. -/
  | top
  /-- In the body of a selection or a mixin. -/
  | block
  /-- In the body of a function or a closure. -/
  | function
  deriving DecidableEq

/-- The kinds of statements at the top of a document. An error stands for a statement that could
not be read. -/
def Statement.isTopLevel : Statement → Bool
  | .declare _ _ _ => true
  | .conditional _ _ => true
  | .selection _ _ _ _ => true
  | .importLibrary _ _ => true
  | .stage _ _ _ => true
  | .function _ _ _ _ => true
  | .mixin _ _ _ _ => true
  | .error _ _ => true
  | _ => false

/-- A statement is of a kind that may stand at a level. -/
def Level.Admits : Level → Statement → Prop
  | top, s => s.isTopLevel = true
  | block, s => s.isBlockLevel = true
  | function, s => s.isFunctionLevel = true

/-! ## Placed statements -/

mutual

/-- A statement stands at a level where it may, and so do all statements inside it, wherever these
stand. In expressions and in defaults there are statements of functions throughout, those of
closures. -/
def Statement.Placed (l : Level) : Statement → Prop
  | .declare loc name e => l.Admits (.declare loc name e) ∧ e.Every Level.function.Admits
  | .conditional loc branches => l.Admits (.conditional loc branches) ∧ branches.Placed l
  | .ret loc e => l.Admits (.ret loc e) ∧ Expr.EveryOf Level.function.Admits e
  | .forRange loc name first last end_ body =>
    l.Admits (.forRange loc name first last end_ body) ∧ first.Every Level.function.Admits ∧
      last.Every Level.function.Admits ∧ Statement.PlacedIn l body
  | .forEach loc key name iterable body =>
    l.Admits (.forEach loc key name iterable body) ∧ iterable.Every Level.function.Admits ∧
      Statement.PlacedIn l body
  | .whileTrue loc condition body =>
    l.Admits (.whileTrue loc condition body) ∧ condition.Every Level.function.Admits ∧
      Statement.PlacedIn l body
  | .set loc e => l.Admits (.set loc e) ∧ e.Every Level.function.Admits
  | .delete loc => l.Admits (.delete loc)
  | .merge loc e => l.Admits (.merge loc e) ∧ e.Every Level.function.Admits
  | .field loc key indexer e => l.Admits (.field loc key indexer e) ∧ e.Every Level.function.Admits
  | .includeMixin loc name args =>
    l.Admits (.includeMixin loc name args) ∧ Arg.EveryIn Level.function.Admits args
  | .selection loc attributes selector body =>
    l.Admits (.selection loc attributes selector body) ∧ Statement.PlacedIn .block body
  | .expression loc e => l.Admits (.expression loc e) ∧ e.Every Level.function.Admits
  | .importLibrary loc name => l.Admits (.importLibrary loc name)
  | .stage loc name priority => l.Admits (.stage loc name priority)
  | .function loc name params body =>
    l.Admits (.function loc name params body) ∧ Param.EveryIn Level.function.Admits params ∧
      Statement.PlacedIn .function body
  | .mixin loc name params body =>
    l.Admits (.mixin loc name params body) ∧ Param.EveryIn Level.function.Admits params ∧
      Statement.PlacedIn .block body
  | .error loc fault => l.Admits (.error loc fault)

/-- Statements that stand at a level where they may, with all statements inside them. -/
def Statement.PlacedIn (l : Level) : List Statement → Prop
  | [] => True
  | s :: rest => s.Placed l ∧ Statement.PlacedIn l rest

/-- Branches at a level, with all statements inside them where they may stand. -/
def Branches.Placed (l : Level) : Branches → Prop
  | .nothing => True
  | .otherwise body => Statement.PlacedIn l body
  | .when _ condition body rest =>
    condition.Every Level.function.Admits ∧ Statement.PlacedIn l body ∧ rest.Placed l

end

/-! ## Functions -/

mutual

/-- What is of a function throughout stands where it may in a function. -/
theorem Statement.placed_of_every : ∀ s : Statement, s.Every Level.function.Admits →
    s.Placed .function
  | .declare _ _ _, h | .ret _ _, h | .set _ _, h | .delete _, h | .merge _ _, h
  | .field _ _ _ _, h | .includeMixin _ _ _, h | .expression _ _, h | .importLibrary _ _, h
  | .stage _ _ _, h | .error _ _, h => h
  | .conditional _ branches, h => ⟨h.1, branches.placed_of_every h.2⟩
  | .forRange _ _ _ _ _ body, h =>
    ⟨h.1, h.2.1, h.2.2.1, Statement.placedIn_of_everyIn body h.2.2.2⟩
  | .forEach _ _ _ _ body, h | .whileTrue _ _ body, h =>
    ⟨h.1, h.2.1, Statement.placedIn_of_everyIn body h.2.2⟩
  -- These are no statements of functions.
  | .selection _ _ _ _, h | .function _ _ _ _, h | .mixin _ _ _ _, h => by cases h.1

/-- The same of a body. -/
theorem Statement.placedIn_of_everyIn : ∀ body : List Statement,
    Statement.EveryIn Level.function.Admits body → Statement.PlacedIn .function body
  | [], _ => trivial
  | s :: rest, h => ⟨s.placed_of_every h.1, Statement.placedIn_of_everyIn rest h.2⟩

theorem Branches.placed_of_every : ∀ branches : Branches, branches.Every Level.function.Admits →
    branches.Placed .function
  | .nothing, _ => trivial
  | .otherwise body, h => Statement.placedIn_of_everyIn body h
  | .when _ _ body rest, h =>
    ⟨h.1, Statement.placedIn_of_everyIn body h.2.1, rest.placed_of_every h.2.2⟩

end

mutual

/-- And what stands where it may in a function is of a function throughout. -/
theorem Statement.every_of_placed : ∀ s : Statement, s.Placed .function →
    s.Every Level.function.Admits
  | .declare _ _ _, h | .ret _ _, h | .set _ _, h | .delete _, h | .merge _ _, h
  | .field _ _ _ _, h | .includeMixin _ _ _, h | .expression _ _, h | .importLibrary _ _, h
  | .stage _ _ _, h | .error _ _, h => h
  | .conditional _ branches, h => ⟨h.1, branches.every_of_placed h.2⟩
  | .forRange _ _ _ _ _ body, h =>
    ⟨h.1, h.2.1, h.2.2.1, Statement.everyIn_of_placedIn body h.2.2.2⟩
  | .forEach _ _ _ _ body, h | .whileTrue _ _ body, h =>
    ⟨h.1, h.2.1, Statement.everyIn_of_placedIn body h.2.2⟩
  | .selection _ _ _ _, h | .function _ _ _ _, h | .mixin _ _ _ _, h => by cases h.1

/-- The same of a body. -/
theorem Statement.everyIn_of_placedIn : ∀ body : List Statement,
    Statement.PlacedIn .function body → Statement.EveryIn Level.function.Admits body
  | [], _ => trivial
  | s :: rest, h => ⟨s.every_of_placed h.1, Statement.everyIn_of_placedIn rest h.2⟩

theorem Branches.every_of_placed : ∀ branches : Branches, branches.Placed .function →
    branches.Every Level.function.Admits
  | .nothing, _ => trivial
  | .otherwise body, h => Statement.everyIn_of_placedIn body h
  | .when _ _ body rest, h =>
    ⟨h.1, Statement.everyIn_of_placedIn body h.2.1, rest.every_of_placed h.2.2⟩

end

namespace Draft

/-- The body of a function or a closure that was read from a draft. -/
theorem placedIn_readFunctionBody (body : List FunctionStatement) :
    Statement.PlacedIn .function (readFunctionBody body) :=
  Statement.placedIn_of_everyIn _ (everyIn_readFunctionBody (fun _ h => h) body)

/-! ## Blocks -/

/-- Expressions hold statements of functions throughout. -/
theorem Expr.functional_read (e : Draft.Expr) : e.read.Every Level.function.Admits :=
  e.every_read fun _ h => h

/-- So do the arguments of a call or an inclusion. -/
theorem functional_readArgs (args : List Draft.Arg) :
    Graft.Arg.EveryIn Level.function.Admits (readArgs args) :=
  everyIn_readArgs (fun _ h => h) args

/-- And so do the defaults of parameters. -/
theorem functional_readParams (params : List Draft.Param) :
    Graft.Param.EveryIn Level.function.Admits (readParams params) :=
  everyIn_readParams (fun _ h => h) params

mutual

/-- A statement that was read from a block stands in one, and what stands in it stands where it
may. Branches and loops stay in the block, a selection begins another. -/
theorem BlockStatement.placed_read : ∀ s : BlockStatement, s.read.Placed .block
  | .declare _ _ e | .field _ _ _ e | .set _ e | .merge _ e => ⟨rfl, e.functional_read⟩
  | .delete _ => rfl
  | .includeMixin _ _ args => ⟨rfl, functional_readArgs args⟩
  | .selection _ _ _ body => ⟨rfl, placedIn_readBlock body⟩
  | .conditional _ condition body elseIfs none =>
    ⟨rfl, condition.functional_read, placedIn_readBlock body,
      placed_readBlockElseIfs elseIfs trivial⟩
  | .conditional _ condition body elseIfs (some last) =>
    ⟨rfl, condition.functional_read, placedIn_readBlock body,
      placed_readBlockElseIfs elseIfs (placedIn_readBlock last)⟩
  | .forRange _ _ first last _ body =>
    ⟨rfl, first.functional_read, last.functional_read, placedIn_readBlock body⟩
  | .forEach _ _ _ e body | .whileTrue _ e body =>
    ⟨rfl, e.functional_read, placedIn_readBlock body⟩

/-- The body of a selection or a mixin that was read from a draft. -/
theorem placedIn_readBlock : ∀ body : List BlockStatement,
    Statement.PlacedIn .block (readBlock body)
  | [] => trivial
  | s :: rest => ⟨s.placed_read, placedIn_readBlock rest⟩

theorem placed_readBlockElseIfs : ∀ (elseIfs : List BlockElseIf) {last : Branches},
    last.Placed .block → (readBlockElseIfs elseIfs last).Placed .block
  | [], _, h => h
  | .mk _ condition body :: rest, _, h =>
    ⟨condition.functional_read, placedIn_readBlock body, placed_readBlockElseIfs rest h⟩

end

/-! ## Documents -/

mutual

/-- A statement that was read from a document stands at the top of one. A function or a mixin whose
parameters are in disorder is read as an error, which may stand there too. -/
theorem TopStatement.placed_read : ∀ s : TopStatement, s.read.Placed .top
  | .importLibrary _ _ => rfl
  | .declare _ _ e => ⟨rfl, e.functional_read⟩
  | .stage _ _ priority => by
    rw [TopStatement.read]
    cases wordOf? priority <;> exact rfl
  | .selection _ _ _ body => ⟨rfl, placedIn_readBlock body⟩
  | .function _ _ params body => by
    rw [TopStatement.read]
    cases defaultsTrail (readParams params) with
    | true => exact ⟨rfl, functional_readParams params, placedIn_readFunctionBody body⟩
    | false => exact rfl
  | .mixin _ _ params body => by
    rw [TopStatement.read]
    cases defaultsTrail (readParams params) with
    | true => exact ⟨rfl, functional_readParams params, placedIn_readBlock body⟩
    | false => exact rfl
  | .conditional _ condition body elseIfs none =>
    ⟨rfl, condition.functional_read, placedIn_readTop body,
      placed_readTopElseIfs elseIfs trivial⟩
  | .conditional _ condition body elseIfs (some last) =>
    ⟨rfl, condition.functional_read, placedIn_readTop body,
      placed_readTopElseIfs elseIfs (placedIn_readTop last)⟩

/-- **Levels are kept.** The statements of a document that was read from a draft stand where they
may, at whatever depth. -/
theorem placedIn_readTop : ∀ body : List TopStatement, Statement.PlacedIn .top (readTop body)
  | [] => trivial
  | s :: rest => ⟨s.placed_read, placedIn_readTop rest⟩

/-- Further branches are put before the last one, which stands there already. -/
theorem placed_readTopElseIfs : ∀ (elseIfs : List TopElseIf) {last : Branches},
    last.Placed .top → (readTopElseIfs elseIfs last).Placed .top
  | [], _, h => h
  | .mk _ condition body :: rest, _, h =>
    ⟨condition.functional_read, placedIn_readTop body, placed_readTopElseIfs rest h⟩

end

end Draft

/-! ## Routines -/

/-- A routine whose body is of a level: the statements in it stand where they may, and so do those
in the defaults. -/
structure Routine.Placed (l : Level) (r : Routine) : Prop where
  params : Param.EveryIn Level.function.Admits r.params
  body : Statement.PlacedIn l r.body

theorem Routine.placed_of_every {r : Routine} (h : r.Every Level.function.Admits) :
    r.Placed .function :=
  ⟨h.params, Statement.placedIn_of_everyIn r.body h.body⟩

theorem Routine.Placed.every {r : Routine} (h : r.Placed .function) :
    r.Every Level.function.Admits :=
  ⟨h.params, Statement.everyIn_of_placedIn r.body h.body⟩

namespace Registry.FromDrafts

variable {r : Registry} (hr : r.FromDrafts) {name : String}

include hr

/-- The functions of such a registry are functions throughout. -/
theorem functional_function {f : Routine} (hf : r.function? name = some f) :
    f.Every Level.function.Admits := by
  obtain ⟨params, body, rfl⟩ := hr.functions hf
  exact Draft.routine_every_readFunction (fun _ h => h) params body

/-- Its mixins are blocks. -/
theorem placed_mixin {f : Routine} (hf : r.mixin? name = some f) : f.Placed .block := by
  obtain ⟨params, body, rfl⟩ := hr.mixins hf
  exact ⟨Draft.functional_readParams params, Draft.placedIn_readBlock body⟩

/-- Its libraries are documents. -/
theorem placed_library {library : Patch} (hl : r.library? name = some library) :
    Statement.PlacedIn .top library.statements := by
  obtain ⟨d, rfl⟩ := hr.libraries hl
  exact Draft.placedIn_readTop d.statements

end Registry.FromDrafts

end Graft
