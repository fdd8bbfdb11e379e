import Graft.Patch.OfDraft
import Graft.Proofs.Patch.Every
import Graft.Proofs.Selector.Valid

/-!
Patches without errors in them.

What could not be read of a draft is an error node of its patch: a statement, an expression or
an indexer. A patch is clean if there is none in it at whatever depth, and neither an invalid
selector nor a function without a name. A draft without problems gives such a patch, because
the two walks over a draft agree: what the one makes an error node of, the other reports. The
same holds of each function, mixin and selector that is read by itself.
-/

set_option autoImplicit false

namespace Graft

/-! ## Clean patches -/

/-- An indexer that could be read. -/
def Indexer.Clean : Indexer → Prop
  | error _ _ => False
  | _ => True

/-- An indexer that may be missing. -/
def Indexer.CleanOf : Option Indexer → Prop
  | none => True
  | some indexer => indexer.Clean

mutual

/-- There are no errors in an expression, nor in the closures inside it. -/
def Expr.Clean : Expr → Prop
  | .literal _ _ => True
  | .variable _ _ => True
  | .localVariable _ _ => True
  | .unary _ _ operand => operand.Clean
  | .binary _ _ left right => left.Clean ∧ right.Clean
  | .subscript _ target index => target.Clean ∧ index.Clean
  | .call _ _ args => Arg.CleanIn args
  | .memberCall _ target _ args => target.Clean ∧ Arg.CleanIn args
  | .ternary _ condition whenTrue whenFalse =>
    condition.Clean ∧ whenTrue.Clean ∧ whenFalse.Clean
  | .list _ items => Expr.CleanIn items
  | .object _ entries => Entry.CleanIn entries
  | .closure _ params body => Param.CleanIn params ∧ Statement.CleanIn body
  | .error _ _ => False

/-- There are no errors in expressions. -/
def Expr.CleanIn : List Expr → Prop
  | [] => True
  | e :: rest => e.Clean ∧ Expr.CleanIn rest

/-- There are no errors in arguments. -/
def Arg.CleanIn : List Arg → Prop
  | [] => True
  | .mk _ _ e :: rest => e.Clean ∧ Arg.CleanIn rest

/-- There are no errors in entries. -/
def Entry.CleanIn : List Entry → Prop
  | [] => True
  | .mk _ _ e :: rest => e.Clean ∧ Entry.CleanIn rest

/-- There are no errors in a default or a returned expression, if there is one. -/
def Expr.CleanOf : Option Expr → Prop
  | none => True
  | some e => e.Clean

/-- There are no errors in the defaults of parameters. -/
def Param.CleanIn : List Param → Prop
  | [] => True
  | .mk _ _ default :: rest => Expr.CleanOf default ∧ Param.CleanIn rest

/-- There are no errors in a statement, nor in what it consists of. -/
def Statement.Clean : Statement → Prop
  | .declare _ _ e => e.Clean
  | .conditional _ branches => branches.Clean
  | .ret _ e => Expr.CleanOf e
  | .forRange _ _ first last _ body => first.Clean ∧ last.Clean ∧ Statement.CleanIn body
  | .forEach _ _ _ iterable body => iterable.Clean ∧ Statement.CleanIn body
  | .whileTrue _ condition body => condition.Clean ∧ Statement.CleanIn body
  | .set _ e => e.Clean
  | .delete _ => True
  | .merge _ e => e.Clean
  | .field _ _ indexer e => Indexer.CleanOf indexer ∧ e.Clean
  | .includeMixin _ _ args => Arg.CleanIn args
  | .selection _ _ selector body => selector.Valid ∧ Statement.CleanIn body
  | .expression _ e => e.Clean
  | .importLibrary _ _ => True
  | .stage _ _ _ => True
  | .function _ name params body =>
    name.isSome = true ∧ Param.CleanIn params ∧ Statement.CleanIn body
  | .mixin _ _ params body => Param.CleanIn params ∧ Statement.CleanIn body
  | .error _ _ => False

/-- There are no errors in statements. -/
def Statement.CleanIn : List Statement → Prop
  | [] => True
  | s :: rest => s.Clean ∧ Statement.CleanIn rest

/-- There are no errors in branches. -/
def Branches.Clean : Branches → Prop
  | .nothing => True
  | .otherwise body => Statement.CleanIn body
  | .when _ condition body rest => condition.Clean ∧ Statement.CleanIn body ∧ rest.Clean

end

/-- There are no errors in a routine: neither in its defaults nor in its body. -/
structure Routine.Clean (r : Routine) : Prop where
  params : Param.CleanIn r.params
  body : Statement.CleanIn r.body

/-! ## What is inside a clean patch -/

mutual

/-- The statements inside a clean expression are clean. They are those of its closures, and those
of closures in closures. -/
theorem Expr.every_of_clean : ∀ e : Expr, e.Clean → e.Every Statement.Clean
  | .literal _ _, _ | .variable _ _, _ | .localVariable _ _, _ => trivial
  | .unary _ _ operand, h => operand.every_of_clean h
  | .binary _ _ left right, h => ⟨left.every_of_clean h.1, right.every_of_clean h.2⟩
  | .subscript _ target index, h => ⟨target.every_of_clean h.1, index.every_of_clean h.2⟩
  | .call _ _ args, h => Arg.everyIn_of_cleanIn args h
  | .memberCall _ target _ args, h =>
    ⟨target.every_of_clean h.1, Arg.everyIn_of_cleanIn args h.2⟩
  | .ternary _ condition whenTrue whenFalse, h =>
    ⟨condition.every_of_clean h.1, whenTrue.every_of_clean h.2.1, whenFalse.every_of_clean h.2.2⟩
  | .list _ items, h => Expr.everyIn_of_cleanIn items h
  | .object _ entries, h => Entry.everyIn_of_cleanIn entries h
  | .closure _ params body, h =>
    ⟨Param.everyIn_of_cleanIn params h.1, Statement.everyIn_of_cleanIn body h.2⟩

theorem Expr.everyIn_of_cleanIn : ∀ es : List Expr, Expr.CleanIn es →
    Expr.EveryIn Statement.Clean es
  | [], _ => trivial
  | e :: rest, h => ⟨e.every_of_clean h.1, Expr.everyIn_of_cleanIn rest h.2⟩

theorem Arg.everyIn_of_cleanIn : ∀ args : List Arg, Arg.CleanIn args →
    Arg.EveryIn Statement.Clean args
  | [], _ => trivial
  | .mk _ _ e :: rest, h => ⟨e.every_of_clean h.1, Arg.everyIn_of_cleanIn rest h.2⟩

theorem Entry.everyIn_of_cleanIn : ∀ entries : List Entry, Entry.CleanIn entries →
    Entry.EveryIn Statement.Clean entries
  | [], _ => trivial
  | .mk _ _ e :: rest, h => ⟨e.every_of_clean h.1, Entry.everyIn_of_cleanIn rest h.2⟩

theorem Expr.everyOf_of_cleanOf : ∀ e : Option Expr, Expr.CleanOf e →
    Expr.EveryOf Statement.Clean e
  | none, _ => trivial
  | some e, h => e.every_of_clean h

/-- The statements inside the defaults of parameters are clean if the defaults are. -/
theorem Param.everyIn_of_cleanIn : ∀ params : List Param, Param.CleanIn params →
    Param.EveryIn Statement.Clean params
  | [], _ => trivial
  | .mk _ _ default :: rest, h =>
    ⟨Expr.everyOf_of_cleanOf default h.1, Param.everyIn_of_cleanIn rest h.2⟩

/-- What is inside a clean statement is clean, at whatever depth. -/
theorem Statement.every_of_clean : ∀ s : Statement, s.Clean → s.Every Statement.Clean
  | .declare _ _ e, h | .set _ e, h | .merge _ e, h | .expression _ e, h =>
    ⟨h, e.every_of_clean h⟩
  | .conditional _ branches, h => ⟨h, branches.every_of_clean h⟩
  | .ret _ e, h => ⟨h, Expr.everyOf_of_cleanOf e h⟩
  | .forRange _ _ first last _ body, h =>
    ⟨h, first.every_of_clean h.1, last.every_of_clean h.2.1,
      Statement.everyIn_of_cleanIn body h.2.2⟩
  | .forEach _ _ _ e body, h | .whileTrue _ e body, h =>
    ⟨h, e.every_of_clean h.1, Statement.everyIn_of_cleanIn body h.2⟩
  | .delete _, h | .importLibrary _ _, h | .stage _ _ _, h | .error _ _, h => h
  | .field _ _ _ e, h => ⟨h, e.every_of_clean h.2⟩
  | .includeMixin _ _ args, h => ⟨h, Arg.everyIn_of_cleanIn args h⟩
  | .selection _ _ _ body, h => ⟨h, Statement.everyIn_of_cleanIn body h.2⟩
  | .function _ _ params body, h =>
    ⟨h, Param.everyIn_of_cleanIn params h.2.1, Statement.everyIn_of_cleanIn body h.2.2⟩
  | .mixin _ _ params body, h =>
    ⟨h, Param.everyIn_of_cleanIn params h.1, Statement.everyIn_of_cleanIn body h.2⟩

/-- Each of some clean statements is clean, and so is what is inside it. -/
theorem Statement.everyIn_of_cleanIn : ∀ body : List Statement, Statement.CleanIn body →
    Statement.EveryIn Statement.Clean body
  | [], _ => trivial
  | s :: rest, h => ⟨s.every_of_clean h.1, Statement.everyIn_of_cleanIn rest h.2⟩

/-- What is inside clean branches is clean: the statements of their conditions and of their
bodies. -/
theorem Branches.every_of_clean : ∀ branches : Branches, branches.Clean →
    branches.Every Statement.Clean
  | .nothing, _ => trivial
  | .otherwise body, h => Statement.everyIn_of_cleanIn body h
  | .when _ condition body rest, h =>
    ⟨condition.every_of_clean h.1, Statement.everyIn_of_cleanIn body h.2.1,
      rest.every_of_clean h.2.2⟩

end

/-- All statements of a clean routine are clean, those inside its defaults included. -/
theorem Routine.Clean.every {r : Routine} (h : r.Clean) : r.Every Statement.Clean :=
  ⟨Param.everyIn_of_cleanIn r.params h.params, Statement.everyIn_of_cleanIn r.body h.body⟩

/-! ## Reading drafts without problems -/

namespace Draft

section

variable {a b c d : List Problem}

/-- Where several parts have no problems between them, none of them has any. -/
theorem nil_of_append₃ (h : a ++ b ++ c = []) : a = [] ∧ b = [] ∧ c = [] := by
  simpa only [List.append_eq_nil_iff, and_assoc] using h

/-- The same of four parts, as a conditional has them. -/
theorem nil_of_append₄ (h : a ++ b ++ c ++ d = []) : a = [] ∧ b = [] ∧ c = [] ∧ d = [] := by
  simpa only [List.append_eq_nil_iff, and_assoc] using h

end

mutual

/-- **Expressions.** Where the walk for problems finds none, the walk that reads makes no error
node: every number and every text could be read, and every closure has its defaults last. -/
theorem Expr.clean_read : ∀ e : Draft.Expr, e.problems = [] → e.read.Clean
  | .number loc text, h => by
    simp only [Expr.problems, Expr.read] at h ⊢
    cases hn : numberOf? text with
    | none =>
      rw [hn] at h
      cases h
    | some v => trivial
  | .string loc text, h => by
    simp only [Expr.problems, nameProblems, Expr.read] at h ⊢
    cases ht : Text.decode text with
    | error e =>
      rw [ht] at h
      cases h
    | ok s => trivial
  | .boolean _ _, _ | .null _, _ | .deletion _, _ | .variable _ _, _ | .localVariable _ _, _ =>
    trivial
  | .unary _ _ operand, h => operand.clean_read h
  | .binary _ _ left right, h => by
    obtain ⟨hleft, hright⟩ := List.append_eq_nil_iff.mp h
    exact ⟨left.clean_read hleft, right.clean_read hright⟩
  | .subscript _ target index, h => by
    obtain ⟨htarget, hindex⟩ := List.append_eq_nil_iff.mp h
    exact ⟨target.clean_read htarget, index.clean_read hindex⟩
  | .call _ _ args, h => cleanIn_readArgs args h
  | .memberCall _ target _ args, h => by
    obtain ⟨htarget, hargs⟩ := List.append_eq_nil_iff.mp h
    exact ⟨target.clean_read htarget, cleanIn_readArgs args hargs⟩
  | .ternary _ condition whenTrue whenFalse, h => by
    obtain ⟨hcondition, htrue, hfalse⟩ := nil_of_append₃ h
    exact ⟨condition.clean_read hcondition, whenTrue.clean_read htrue,
      whenFalse.clean_read hfalse⟩
  | .list _ items, h => cleanIn_readExprs items h
  | .object _ entries, h => cleanIn_readEntries entries h
  | .closure loc params body, h => by
    obtain ⟨hparams, hbody⟩ := List.append_eq_nil_iff.mp h
    simp only [Expr.read]
    split at hbody
    · rename_i htrail
      rw [if_pos htrail]
      exact ⟨cleanIn_readParams params hparams, cleanIn_readFunctionBody body hbody⟩
    · cases hbody

theorem cleanIn_readExprs : ∀ es : List Draft.Expr, exprProblems es = [] →
    Graft.Expr.CleanIn (readExprs es)
  | [], _ => trivial
  | e :: rest, h => by
    obtain ⟨he, hrest⟩ := List.append_eq_nil_iff.mp h
    exact ⟨e.clean_read he, cleanIn_readExprs rest hrest⟩

theorem cleanIn_readArgs : ∀ args : List Draft.Arg, argProblems args = [] →
    Graft.Arg.CleanIn (readArgs args)
  | [], _ => trivial
  | .mk _ _ e :: rest, h => by
    obtain ⟨he, hrest⟩ := List.append_eq_nil_iff.mp h
    exact ⟨e.clean_read he, cleanIn_readArgs rest hrest⟩

/-- An entry is read even if its key has a problem, which is reported beside those of its value. So
the keys do not matter here. -/
theorem cleanIn_readEntries : ∀ entries : List Draft.Entry, entryProblems entries = [] →
    Graft.Entry.CleanIn (readEntries entries)
  | [], _ => trivial
  | .mk _ _ e :: rest, h => by
    obtain ⟨_, he, hrest⟩ := nil_of_append₃ h
    exact ⟨e.clean_read he, cleanIn_readEntries rest hrest⟩

/-- A default, or a returned expression, may be missing, and then there is nothing to read. -/
theorem cleanOf_readDefault : ∀ e : Option Draft.Expr, defaultProblems e = [] →
    Graft.Expr.CleanOf (readDefault e)
  | none, _ => trivial
  | some e, h => e.clean_read h

/-- The parameters of a routine are clean if their defaults had no problems. -/
theorem cleanIn_readParams : ∀ params : List Draft.Param, paramProblems params = [] →
    Graft.Param.CleanIn (readParams params)
  | [], _ => trivial
  | .mk _ _ default :: rest, h => by
    obtain ⟨hdefault, hrest⟩ := List.append_eq_nil_iff.mp h
    exact ⟨cleanOf_readDefault default hdefault, cleanIn_readParams rest hrest⟩

/-- **Statements of functions.** A conditional is read as its first branch, then those after it,
and last the branch without a condition, if it has one; each of them had no problems. -/
theorem FunctionStatement.clean_read : ∀ s : FunctionStatement, s.problems = [] → s.read.Clean
  | .declare _ _ e, h | .expression _ e, h => e.clean_read h
  | .ret _ e, h => cleanOf_readDefault e h
  | .conditional _ condition body elseIfs none, h => by
    obtain ⟨hcondition, hbody, helseIfs, _⟩ := nil_of_append₄ h
    exact ⟨condition.clean_read hcondition, cleanIn_readFunctionBody body hbody,
      clean_readFunctionElseIfs elseIfs helseIfs trivial⟩
  | .conditional _ condition body elseIfs (some last), h => by
    obtain ⟨hcondition, hbody, helseIfs, hlast⟩ := nil_of_append₄ h
    exact ⟨condition.clean_read hcondition, cleanIn_readFunctionBody body hbody,
      clean_readFunctionElseIfs elseIfs helseIfs (cleanIn_readFunctionBody last hlast)⟩
  | .forRange _ _ first last _ body, h => by
    obtain ⟨hfirst, hlast, hbody⟩ := nil_of_append₃ h
    exact ⟨first.clean_read hfirst, last.clean_read hlast, cleanIn_readFunctionBody body hbody⟩
  | .forEach _ _ _ e body, h | .whileTrue _ e body, h => by
    obtain ⟨he, hbody⟩ := List.append_eq_nil_iff.mp h
    exact ⟨e.clean_read he, cleanIn_readFunctionBody body hbody⟩

/-- The body of a function, a closure or a loop in one, statement by statement. -/
theorem cleanIn_readFunctionBody : ∀ body : List FunctionStatement,
    functionBodyProblems body = [] → Statement.CleanIn (readFunctionBody body)
  | [], _ => trivial
  | s :: rest, h => by
    obtain ⟨hs, hrest⟩ := List.append_eq_nil_iff.mp h
    exact ⟨s.clean_read hs, cleanIn_readFunctionBody rest hrest⟩

/-- The branches of a conditional are put before its last one, which is clean already. -/
theorem clean_readFunctionElseIfs : ∀ (elseIfs : List FunctionElseIf) {last : Branches},
    functionElseIfProblems elseIfs = [] → last.Clean → (readFunctionElseIfs elseIfs last).Clean
  | [], _, _, hlast => hlast
  | .mk _ condition body :: rest, last, h, hlast => by
    obtain ⟨hcondition, hbody, hrest⟩ := nil_of_append₃ h
    exact ⟨condition.clean_read hcondition, cleanIn_readFunctionBody body hbody,
      clean_readFunctionElseIfs rest hrest hlast⟩

end

/-! ### Blocks -/

/-- Only a position that is no number becomes an error; the names in other indexers are read even
if they have problems. -/
theorem cleanOf_readIndexer {indexer : Option Draft.Indexer} (h : indexerProblems indexer = []) :
    Graft.Indexer.CleanOf (indexer.map Indexer.read) := by
  cases indexer with
  | none => trivial
  | some i =>
    cases i with
    | position loc text =>
      simp only [indexerProblems, Indexer.problems, Option.map_some, Indexer.read] at h ⊢
      cases hw : wordOf? text with
      | none =>
        rw [hw] at h
        cases h
      | some n => trivial
    | ofType | ofClass | key => trivial

mutual

/-- **Statements of blocks.** A selector is valid however it was written, so of a selection only
the body counts, and of an inclusion only the arguments. -/
theorem BlockStatement.clean_read : ∀ s : BlockStatement, s.problems = [] → s.read.Clean
  | .declare _ _ e, h | .set _ e, h | .merge _ e, h => e.clean_read h
  | .delete _, _ => trivial
  | .field _ _ indexer e, h => by
    obtain ⟨_, hindexer, he⟩ := nil_of_append₃ h
    exact ⟨cleanOf_readIndexer hindexer, e.clean_read he⟩
  | .includeMixin _ _ args, h => by
    obtain ⟨_, hargs⟩ := List.append_eq_nil_iff.mp h
    exact cleanIn_readArgs args hargs
  | .selection _ _ selector body, h => by
    obtain ⟨_, hbody⟩ := List.append_eq_nil_iff.mp h
    exact ⟨Graft.Selector.valid_read selector, cleanIn_readBlock body hbody⟩
  | .conditional _ condition body elseIfs none, h => by
    obtain ⟨hcondition, hbody, helseIfs, _⟩ := nil_of_append₄ h
    exact ⟨condition.clean_read hcondition, cleanIn_readBlock body hbody,
      clean_readBlockElseIfs elseIfs helseIfs trivial⟩
  | .conditional _ condition body elseIfs (some last), h => by
    obtain ⟨hcondition, hbody, helseIfs, hlast⟩ := nil_of_append₄ h
    exact ⟨condition.clean_read hcondition, cleanIn_readBlock body hbody,
      clean_readBlockElseIfs elseIfs helseIfs (cleanIn_readBlock last hlast)⟩
  | .forRange _ _ first last _ body, h => by
    obtain ⟨hfirst, hlast, hbody⟩ := nil_of_append₃ h
    exact ⟨first.clean_read hfirst, last.clean_read hlast, cleanIn_readBlock body hbody⟩
  | .forEach _ _ _ e body, h | .whileTrue _ e body, h => by
    obtain ⟨he, hbody⟩ := List.append_eq_nil_iff.mp h
    exact ⟨e.clean_read he, cleanIn_readBlock body hbody⟩

/-- The body of a selection, a mixin or a loop in one, statement by statement. -/
theorem cleanIn_readBlock : ∀ body : List BlockStatement, blockProblems body = [] →
    Statement.CleanIn (readBlock body)
  | [], _ => trivial
  | s :: rest, h => by
    obtain ⟨hs, hrest⟩ := List.append_eq_nil_iff.mp h
    exact ⟨s.clean_read hs, cleanIn_readBlock rest hrest⟩

/-- Branches in a block, put before the last one as in a function. -/
theorem clean_readBlockElseIfs : ∀ (elseIfs : List BlockElseIf) {last : Branches},
    blockElseIfProblems elseIfs = [] → last.Clean → (readBlockElseIfs elseIfs last).Clean
  | [], _, _, hlast => hlast
  | .mk _ condition body :: rest, last, h, hlast => by
    obtain ⟨hcondition, hbody, hrest⟩ := nil_of_append₃ h
    exact ⟨condition.clean_read hcondition, cleanIn_readBlock body hbody,
      clean_readBlockElseIfs rest hrest hlast⟩

end

/-! ### Documents -/

mutual

/-- **Statements of documents.** A priority that is no number, and defaults that do not come last,
make error nodes of a stage and of a routine, and are reported. -/
theorem TopStatement.clean_read : ∀ s : TopStatement, s.problems = [] → s.read.Clean
  | .importLibrary _ _, _ => trivial
  | .declare _ _ e, h => e.clean_read h
  | .stage loc name priority, h => by
    simp only [TopStatement.problems, TopStatement.read] at h ⊢
    cases hw : wordOf? priority with
    | none =>
      rw [hw] at h
      cases h
    | some n => trivial
  | .selection _ _ selector body, h => by
    obtain ⟨_, hbody⟩ := List.append_eq_nil_iff.mp h
    exact ⟨Graft.Selector.valid_read selector, cleanIn_readBlock body hbody⟩
  -- Where the defaults are in the wrong place, this is reported whatever the body is.
  | .function loc name params body, h => by
    obtain ⟨hparams, hrest⟩ := List.append_eq_nil_iff.mp h
    simp only [TopStatement.read]
    split at hrest
    · rename_i htrail
      obtain ⟨_, hbody⟩ := List.append_eq_nil_iff.mp hrest
      rw [if_pos htrail]
      exact ⟨rfl, cleanIn_readParams params hparams, cleanIn_readFunctionBody body hbody⟩
    · cases hrest
  | .mixin loc name params body, h => by
    obtain ⟨hparams, hrest⟩ := List.append_eq_nil_iff.mp h
    simp only [TopStatement.read]
    split at hrest
    · rename_i htrail
      obtain ⟨_, hbody⟩ := List.append_eq_nil_iff.mp hrest
      rw [if_pos htrail]
      exact ⟨cleanIn_readParams params hparams, cleanIn_readBlock body hbody⟩
    · cases hrest
  | .conditional _ condition body elseIfs none, h => by
    obtain ⟨hcondition, hbody, helseIfs, _⟩ := nil_of_append₄ h
    exact ⟨condition.clean_read hcondition, cleanIn_readTop body hbody,
      clean_readTopElseIfs elseIfs helseIfs trivial⟩
  | .conditional _ condition body elseIfs (some last), h => by
    obtain ⟨hcondition, hbody, helseIfs, hlast⟩ := nil_of_append₄ h
    exact ⟨condition.clean_read hcondition, cleanIn_readTop body hbody,
      clean_readTopElseIfs elseIfs helseIfs (cleanIn_readTop last hlast)⟩

/-- **No problems, no errors.** The statements of a document without problems are clean. -/
theorem cleanIn_readTop : ∀ body : List TopStatement, topProblems body = [] →
    Statement.CleanIn (readTop body)
  | [], _ => trivial
  | s :: rest, h => by
    obtain ⟨hs, hrest⟩ := List.append_eq_nil_iff.mp h
    exact ⟨s.clean_read hs, cleanIn_readTop rest hrest⟩

/-- Branches at the top of a document, put before the last one as in a function. -/
theorem clean_readTopElseIfs : ∀ (elseIfs : List TopElseIf) {last : Branches},
    topElseIfProblems elseIfs = [] → last.Clean → (readTopElseIfs elseIfs last).Clean
  | [], _, _, hlast => hlast
  | .mk _ condition body :: rest, last, h, hlast => by
    obtain ⟨hcondition, hbody, hrest⟩ := nil_of_append₃ h
    exact ⟨condition.clean_read hcondition, cleanIn_readTop body hbody,
      clean_readTopElseIfs rest hrest hlast⟩

end

end Draft

/-! ## Registries -/

/-- A registry whose rulesets, functions, mixins and libraries were read from drafts without
problems. -/
structure Registry.FromCleanDrafts (r : Registry) : Prop where
  rulesets : ∀ {name : String} {s : Selector}, r.ruleset? name = some s →
    ∃ d : Draft.Selector, d.problems = [] ∧ s = d.read
  functions : ∀ {name : String} {f : Routine}, r.function? name = some f →
    ∃ (params : List Draft.Param) (body : List Draft.FunctionStatement),
      Draft.paramProblems params = [] ∧ Draft.functionBodyProblems body = [] ∧
      f = ⟨Draft.readParams params, Draft.readFunctionBody body⟩
  mixins : ∀ {name : String} {f : Routine}, r.mixin? name = some f →
    ∃ (params : List Draft.Param) (body : List Draft.BlockStatement),
      Draft.paramProblems params = [] ∧ Draft.blockProblems body = [] ∧
      f = ⟨Draft.readParams params, Draft.readBlock body⟩
  libraries : ∀ {name : String} {q : Patch}, r.library? name = some q →
    ∃ d : Draft, d.problems = [] ∧ q = Patch.ofDraft d

/-- A registry without errors in its routines and libraries and without invalid rulesets. -/
structure Registry.Clean (r : Registry) : Prop where
  rulesets : ∀ {name : String} {s : Selector}, r.ruleset? name = some s → s.Valid
  functions : ∀ {name : String} {f : Routine}, r.function? name = some f → f.Clean
  mixins : ∀ {name : String} {f : Routine}, r.mixin? name = some f → f.Clean
  libraries : ∀ {name : String} {q : Patch}, r.library? name = some q →
    Statement.CleanIn q.statements

/-- Drafts without problems make a registry without errors, each definition by itself. -/
theorem Registry.FromCleanDrafts.clean {r : Registry} (hr : r.FromCleanDrafts) : r.Clean where
  rulesets hlookup := by
    obtain ⟨s, _, rfl⟩ := hr.rulesets hlookup
    exact Selector.valid_read s
  functions hlookup := by
    obtain ⟨params, body, hparams, hbody, rfl⟩ := hr.functions hlookup
    exact ⟨Draft.cleanIn_readParams params hparams, Draft.cleanIn_readFunctionBody body hbody⟩
  mixins hlookup := by
    obtain ⟨params, body, hparams, hbody, rfl⟩ := hr.mixins hlookup
    exact ⟨Draft.cleanIn_readParams params hparams, Draft.cleanIn_readBlock body hbody⟩
  libraries hlookup := by
    obtain ⟨d, hd, rfl⟩ := hr.libraries hlookup
    exact Draft.cleanIn_readTop d.statements hd

/-- Nothing but active mods. -/
theorem Registry.fromCleanDrafts_withActiveMods (mods : List String) :
    (Registry.withActiveMods mods).FromCleanDrafts where
  rulesets h := nomatch h
  functions h := nomatch h
  mixins h := nomatch h
  libraries h := nomatch h

end Graft
