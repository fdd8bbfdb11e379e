import Graft.Patch.OfDraft
import Graft.Proofs.Patch.Every

/-!
The levels of statements, and where reading a draft puts them.

A draft keeps its three levels of statements apart by its types; a patch has one type for
all of them. What the types of a draft promise is therefore proved of the patch that is
read from it: what stands inside an expression are the bodies of closures, which hold
statements of functions only, and a selection or a mixin holds statements of blocks and,
inside their expressions, of functions.
-/

set_option autoImplicit false

namespace Graft

/-- The kinds of statements that a function or a closure holds. -/
def Statement.isFunctionLevel : Statement → Bool
  | .declare _ _ _ => true
  | .conditional _ _ => true
  | .ret _ _ => true
  | .forRange _ _ _ _ _ _ => true
  | .forEach _ _ _ _ _ => true
  | .whileTrue _ _ _ => true
  | .expression _ _ => true
  | _ => false

/-- The kinds of statements that a selection or a mixin holds. -/
def Statement.isBlockLevel : Statement → Bool
  | .declare _ _ _ => true
  | .conditional _ _ => true
  | .forRange _ _ _ _ _ _ => true
  | .forEach _ _ _ _ _ => true
  | .whileTrue _ _ _ => true
  | .set _ _ => true
  | .delete _ => true
  | .merge _ _ => true
  | .field _ _ _ _ => true
  | .includeMixin _ _ _ => true
  | .selection _ _ _ _ => true
  | _ => false

/-- The kinds of statements that put an edit to the host. -/
def Statement.isEdit : Statement → Bool
  | .set _ _ => true
  | .delete _ => true
  | .merge _ _ => true
  | .field _ _ _ _ => true
  | _ => false

/-- The kinds of statements that may bind names in the block in which they stand. All others bind
in frames of their own, or not at all. -/
def Statement.bindsInBlock : Statement → Bool
  | .declare _ _ _ => true
  | .whileTrue _ _ _ => true
  | .includeMixin _ _ _ => true
  | _ => false

/-- A function holds no edits. -/
theorem Statement.isEdit_of_isFunctionLevel {s : Statement} (h : s.isFunctionLevel = true) :
    s.isEdit = false := by
  cases s with
  | set | delete | merge | field => cases h
  | _ => rfl

/-- What a statement defines as a function is a function throughout: in its defaults and in
its body there are statements of functions only. -/
def Statement.DefinesFunction : Statement → Prop
  | .function _ _ params body => (Routine.mk params body).Every fun s => s.isFunctionLevel = true
  | _ => True

/-- What a statement defines as a function or as a mixin consists of statements that `P` holds
of. -/
def Statement.DefinesEvery (P : Statement → Prop) : Statement → Prop
  | .function _ _ params body | .mixin _ _ params body => (Routine.mk params body).Every P
  | _ => True

/-! ## Reading expressions and functions -/

namespace Draft

section

variable {P : Statement → Prop}

mutual

/-- **Expressions.** What holds of all statements of functions holds of those that stand in an
expression that was read. Only closures hold any. -/
theorem Expr.every_read (hf : ∀ s : Statement, s.isFunctionLevel = true → P s) :
    ∀ e : Draft.Expr, e.read.Every P
  | .number loc text => by
    simp only [Expr.read]
    cases numberOf? text <;> exact trivial
  | .string loc text => by
    simp only [Expr.read]
    cases Text.decode text <;> exact trivial
  | .boolean _ _ => trivial
  | .null _ => trivial
  | .deletion _ => trivial
  | .variable _ _ => trivial
  | .localVariable _ _ => trivial
  | .unary _ _ operand => operand.every_read hf
  | .binary _ _ left right => ⟨left.every_read hf, right.every_read hf⟩
  | .subscript _ target index => ⟨target.every_read hf, index.every_read hf⟩
  | .call _ _ args => everyIn_readArgs hf args
  | .memberCall _ target _ args => ⟨target.every_read hf, everyIn_readArgs hf args⟩
  | .ternary _ condition whenTrue whenFalse =>
    ⟨condition.every_read hf, whenTrue.every_read hf, whenFalse.every_read hf⟩
  | .list _ items => everyIn_readExprs hf items
  | .object _ entries => everyIn_readEntries hf entries
  -- Here expressions lead back to statements, which are those of functions.
  | .closure loc params body => by
    have hparams := everyIn_readParams hf params
    have hbody := everyIn_readFunctionBody hf body
    simp only [Expr.read]
    split
    · exact ⟨hparams, hbody⟩
    · exact trivial

theorem everyIn_readExprs (hf : ∀ s : Statement, s.isFunctionLevel = true → P s) :
    ∀ es : List Draft.Expr, Graft.Expr.EveryIn P (readExprs es)
  | [] => trivial
  | e :: rest => ⟨e.every_read hf, everyIn_readExprs hf rest⟩

theorem everyIn_readArgs (hf : ∀ s : Statement, s.isFunctionLevel = true → P s) :
    ∀ args : List Draft.Arg, Graft.Arg.EveryIn P (readArgs args)
  | [] => trivial
  | .mk _ _ e :: rest => ⟨e.every_read hf, everyIn_readArgs hf rest⟩

theorem everyIn_readEntries (hf : ∀ s : Statement, s.isFunctionLevel = true → P s) :
    ∀ entries : List Draft.Entry, Graft.Entry.EveryIn P (readEntries entries)
  | [] => trivial
  | .mk _ _ e :: rest => ⟨e.every_read hf, everyIn_readEntries hf rest⟩

theorem everyOf_readDefault (hf : ∀ s : Statement, s.isFunctionLevel = true → P s) :
    ∀ e : Option Draft.Expr, Graft.Expr.EveryOf P (readDefault e)
  | none => trivial
  | some e => e.every_read hf

theorem everyIn_readParams (hf : ∀ s : Statement, s.isFunctionLevel = true → P s) :
    ∀ params : List Draft.Param, Graft.Param.EveryIn P (readParams params)
  | [] => trivial
  | .mk _ _ default :: rest => ⟨everyOf_readDefault hf default, everyIn_readParams hf rest⟩

/-- What holds of all statements of functions holds of one that was read and of all that stand in
it. -/
theorem FunctionStatement.every_read (hf : ∀ s : Statement, s.isFunctionLevel = true → P s) :
    ∀ s : FunctionStatement, s.read.Every P
  | .declare _ _ e => ⟨hf _ rfl, e.every_read hf⟩
  | .ret _ e => ⟨hf _ rfl, everyOf_readDefault hf e⟩
  | .expression _ e => ⟨hf _ rfl, e.every_read hf⟩
  | .conditional _ condition body elseIfs none =>
    ⟨hf _ rfl, condition.every_read hf, everyIn_readFunctionBody hf body,
      every_readFunctionElseIfs hf elseIfs _ trivial⟩
  | .conditional _ condition body elseIfs (some last) =>
    ⟨hf _ rfl, condition.every_read hf, everyIn_readFunctionBody hf body,
      every_readFunctionElseIfs hf elseIfs _ (everyIn_readFunctionBody hf last)⟩
  | .forRange _ _ first last _ body =>
    ⟨hf _ rfl, first.every_read hf, last.every_read hf, everyIn_readFunctionBody hf body⟩
  | .forEach _ _ _ iterable body =>
    ⟨hf _ rfl, iterable.every_read hf, everyIn_readFunctionBody hf body⟩
  | .whileTrue _ condition body =>
    ⟨hf _ rfl, condition.every_read hf, everyIn_readFunctionBody hf body⟩

theorem everyIn_readFunctionBody (hf : ∀ s : Statement, s.isFunctionLevel = true → P s) :
    ∀ body : List FunctionStatement, Statement.EveryIn P (readFunctionBody body)
  | [] => trivial
  | s :: rest => ⟨s.every_read hf, everyIn_readFunctionBody hf rest⟩

/-- Further branches are put before the last one, of which the same is to hold. -/
theorem every_readFunctionElseIfs (hf : ∀ s : Statement, s.isFunctionLevel = true → P s) :
    ∀ (elseIfs : List FunctionElseIf) (last : Branches), last.Every P →
      (readFunctionElseIfs elseIfs last).Every P
  | [], _, hlast => hlast
  | .mk _ condition body :: rest, last, hlast =>
    ⟨condition.every_read hf, everyIn_readFunctionBody hf body,
      every_readFunctionElseIfs hf rest last hlast⟩

end

/-- What a draft gives as a function holds statements of functions only. -/
theorem routine_every_readFunction (hf : ∀ s : Statement, s.isFunctionLevel = true → P s)
    (params : List Draft.Param) (body : List FunctionStatement) :
    (Routine.mk (readParams params) (readFunctionBody body)).Every P :=
  ⟨everyIn_readParams hf params, everyIn_readFunctionBody hf body⟩

end

/-! ## Reading blocks -/

section

variable {P : Statement → Prop}

mutual

/-- **Blocks.** What holds of the statements of functions and of those that are read from blocks
holds of all that stand in a statement of a block. -/
theorem BlockStatement.every_read (hf : ∀ s : Statement, s.isFunctionLevel = true → P s)
    (hb : ∀ s : BlockStatement, P s.read) :
    ∀ s : BlockStatement, s.read.Every P
  | .declare _ _ e => ⟨hf _ rfl, e.every_read hf⟩
  | .field loc key indexer e => ⟨hb (.field loc key indexer e), e.every_read hf⟩
  | .set loc e => ⟨hb (.set loc e), e.every_read hf⟩
  | .delete loc => hb (.delete loc)
  | .merge loc e => ⟨hb (.merge loc e), e.every_read hf⟩
  | .includeMixin loc name args => ⟨hb (.includeMixin loc name args), everyIn_readArgs hf args⟩
  | .selection loc attributes selector body =>
    ⟨hb (.selection loc attributes selector body), everyIn_readBlock hf hb body⟩
  | .conditional _ condition body elseIfs none =>
    ⟨hf _ rfl, condition.every_read hf, everyIn_readBlock hf hb body,
      every_readBlockElseIfs hf hb elseIfs _ trivial⟩
  | .conditional _ condition body elseIfs (some last) =>
    ⟨hf _ rfl, condition.every_read hf, everyIn_readBlock hf hb body,
      every_readBlockElseIfs hf hb elseIfs _ (everyIn_readBlock hf hb last)⟩
  | .forRange _ _ first last _ body =>
    ⟨hf _ rfl, first.every_read hf, last.every_read hf, everyIn_readBlock hf hb body⟩
  | .forEach _ _ _ iterable body =>
    ⟨hf _ rfl, iterable.every_read hf, everyIn_readBlock hf hb body⟩
  | .whileTrue _ condition body =>
    ⟨hf _ rfl, condition.every_read hf, everyIn_readBlock hf hb body⟩

/-- The same of the body of a selection or a mixin. -/
theorem everyIn_readBlock (hf : ∀ s : Statement, s.isFunctionLevel = true → P s)
    (hb : ∀ s : BlockStatement, P s.read) :
    ∀ body : List BlockStatement, Statement.EveryIn P (readBlock body)
  | [] => trivial
  | s :: rest => ⟨s.every_read hf hb, everyIn_readBlock hf hb rest⟩

theorem every_readBlockElseIfs (hf : ∀ s : Statement, s.isFunctionLevel = true → P s)
    (hb : ∀ s : BlockStatement, P s.read) :
    ∀ (elseIfs : List BlockElseIf) (last : Branches), last.Every P →
      (readBlockElseIfs elseIfs last).Every P
  | [], _, hlast => hlast
  | .mk _ condition body :: rest, last, hlast =>
    ⟨condition.every_read hf, everyIn_readBlock hf hb body,
      every_readBlockElseIfs hf hb rest last hlast⟩

end

/-- What a draft gives as a mixin holds statements of blocks and functions only. -/
theorem routine_every_readMixin (hf : ∀ s : Statement, s.isFunctionLevel = true → P s)
    (hb : ∀ s : BlockStatement, P s.read)
    (params : List Draft.Param) (body : List BlockStatement) :
    (Routine.mk (readParams params) (readBlock body)).Every P :=
  ⟨everyIn_readParams hf params, everyIn_readBlock hf hb body⟩

end

/-! ## Reading documents -/

section

variable {P : Statement → Prop}

mutual

/-- **Documents.** What holds of statements of all three kinds holds of all that stand in a
statement of a document. A function or a mixin whose parameters are in disorder is read as an
error, in which nothing stands. -/
theorem TopStatement.every_read (hf : ∀ s : Statement, s.isFunctionLevel = true → P s)
    (hb : ∀ s : BlockStatement, P s.read) (ht : ∀ s : TopStatement, P s.read) :
    ∀ s : TopStatement, s.read.Every P
  | .importLibrary loc text => ht (.importLibrary loc text)
  | .declare _ _ e => ⟨hf _ rfl, e.every_read hf⟩
  -- A priority that is not a number is read as an error, and so are defaults in the wrong place.
  | .stage loc name priority => by
    have h := ht (.stage loc name priority)
    simp only [TopStatement.read] at h ⊢
    cases hw : wordOf? priority with
    | none =>
      rw [hw] at h
      exact h
    | some n =>
      rw [hw] at h
      exact h
  | .selection loc attributes selector body =>
    ⟨ht (.selection loc attributes selector body), everyIn_readBlock hf hb body⟩
  | .function loc name params body => by
    have h := ht (.function loc name params body)
    simp only [TopStatement.read] at h ⊢
    by_cases hd : defaultsTrail (readParams params) = true
    · rw [if_pos hd] at h ⊢
      exact ⟨h, everyIn_readParams hf params, everyIn_readFunctionBody hf body⟩
    · rw [if_neg hd] at h ⊢
      exact h
  | .mixin loc name params body => by
    have h := ht (.mixin loc name params body)
    simp only [TopStatement.read] at h ⊢
    by_cases hd : defaultsTrail (readParams params) = true
    · rw [if_pos hd] at h ⊢
      exact ⟨h, everyIn_readParams hf params, everyIn_readBlock hf hb body⟩
    · rw [if_neg hd] at h ⊢
      exact h
  | .conditional _ condition body elseIfs none =>
    ⟨hf _ rfl, condition.every_read hf, everyIn_readTop hf hb ht body,
      every_readTopElseIfs hf hb ht elseIfs _ trivial⟩
  | .conditional _ condition body elseIfs (some last) =>
    ⟨hf _ rfl, condition.every_read hf, everyIn_readTop hf hb ht body,
      every_readTopElseIfs hf hb ht elseIfs _ (everyIn_readTop hf hb ht last)⟩

/-- The same of all statements of a document. -/
theorem everyIn_readTop (hf : ∀ s : Statement, s.isFunctionLevel = true → P s)
    (hb : ∀ s : BlockStatement, P s.read) (ht : ∀ s : TopStatement, P s.read) :
    ∀ ss : List TopStatement, Statement.EveryIn P (readTop ss)
  | [] => trivial
  | s :: rest => ⟨s.every_read hf hb ht, everyIn_readTop hf hb ht rest⟩

theorem every_readTopElseIfs (hf : ∀ s : Statement, s.isFunctionLevel = true → P s)
    (hb : ∀ s : BlockStatement, P s.read) (ht : ∀ s : TopStatement, P s.read) :
    ∀ (elseIfs : List TopElseIf) (last : Branches), last.Every P →
      (readTopElseIfs elseIfs last).Every P
  | [], _, hlast => hlast
  | .mk _ condition body :: rest, last, hlast =>
    ⟨condition.every_read hf, everyIn_readTop hf hb ht body,
      every_readTopElseIfs hf hb ht rest last hlast⟩

end

end

/-- No statement of a block defines anything. -/
theorem BlockStatement.definesEvery_read {P : Statement → Prop} (s : BlockStatement) :
    s.read.DefinesEvery P := by
  cases s <;> exact trivial

/-- What a document defines consists of statements of functions and of blocks. -/
theorem TopStatement.definesEvery_read {P : Statement → Prop}
    (hf : ∀ s : Statement, s.isFunctionLevel = true → P s) (hb : ∀ s : BlockStatement, P s.read)
    (s : TopStatement) : s.read.DefinesEvery P := by
  cases s with
  | stage loc name priority =>
    simp only [TopStatement.read]
    cases wordOf? priority <;> exact trivial
  | function loc name params body =>
    simp only [TopStatement.read]
    split
    · exact routine_every_readFunction hf params body
    · exact trivial
  | mixin loc name params body =>
    simp only [TopStatement.read]
    split
    · exact routine_every_readMixin hf hb params body
    · exact trivial
  | _ => exact trivial

/-- No statement of a block defines a function. -/
theorem BlockStatement.definesFunction_read (s : BlockStatement) : s.read.DefinesFunction := by
  cases s <;> exact trivial

/-- Whatever a statement of a document defines as a function is one throughout. -/
theorem TopStatement.definesFunction_read (s : TopStatement) : s.read.DefinesFunction := by
  cases s with
  | stage loc name priority =>
    simp only [TopStatement.read]
    cases wordOf? priority <;> exact trivial
  | function loc name params body =>
    simp only [TopStatement.read]
    split
    · exact routine_every_readFunction (fun _ h => h) params body
    · exact trivial
  | mixin loc name params body =>
    simp only [TopStatement.read]
    split <;> exact trivial
  | _ => exact trivial

end Draft

theorem Statement.definesEvery_of_isFunctionLevel {P : Statement → Prop} (s : Statement)
    (h : s.isFunctionLevel = true) : s.DefinesEvery P := by
  cases s with
  | function | mixin => cases h
  | _ => exact trivial

/-- A statement of a function defines none. -/
theorem Statement.definesFunction_of_isFunctionLevel (s : Statement)
    (h : s.isFunctionLevel = true) : s.DefinesFunction := by
  cases s with
  | function => cases h
  | _ => exact trivial

/-- In the patch of a draft, whatever is defined as a function is one throughout. -/
theorem Patch.definesFunction_ofDraft (d : Draft) :
    Statement.EveryIn Statement.DefinesFunction (Patch.ofDraft d).statements :=
  Draft.everyIn_readTop Statement.definesFunction_of_isFunctionLevel
    Draft.BlockStatement.definesFunction_read Draft.TopStatement.definesFunction_read d.statements

/-! ## Registries -/

/-- A registry whose functions, mixins and libraries were read from drafts. -/
structure Registry.FromDrafts (r : Registry) : Prop where
  functions : ∀ {name : String} {f : Routine}, r.function? name = some f →
    ∃ (params : List Draft.Param) (body : List Draft.FunctionStatement),
      f = ⟨Draft.readParams params, Draft.readFunctionBody body⟩
  mixins : ∀ {name : String} {f : Routine}, r.mixin? name = some f →
    ∃ (params : List Draft.Param) (body : List Draft.BlockStatement),
      f = ⟨Draft.readParams params, Draft.readBlock body⟩
  libraries : ∀ {name : String} {q : Patch}, r.library? name = some q →
    ∃ d : Draft, q = Patch.ofDraft d

end Graft
