import Mathlib.Data.List.Basic
import Mathlib.Logic.Relation
import Graft.Job

/-!
What the review of a draft reports.

A draft is a tree of nodes, and a node may own items that are read from raw text: numbers, indices,
priorities, names and strings, and its list of parameters. An item that cannot be read is
malformed, wherever it stands, and is to be reported at the place of its node.

Two kinds of items are gates. Where the priority of a stage cannot be read, or where the parameters
of a function, a mixin or a closure are in disorder, nothing else of the node is looked at, except
the defaults of the parameters. So the review reports the malformed items that are not behind such
a gate, and no others.
-/

set_option autoImplicit false

namespace Graft

namespace Draft

/-! ## Nodes and items -/

/-- A node of a draft. Arguments, parameters and further branches own no items and count as part
of the node in which they stand. -/
inductive Node where
  | expr (e : Expr)
  | entry (e : Entry)
  | function (s : FunctionStatement)
  | selector (s : Selector)
  | requirement (a : Attribute)
  | indexer (i : Indexer)
  | block (s : BlockStatement)
  | top (s : TopStatement)

/-- What a node owns and what is read from raw text. -/
inductive Item where
  /-- A string, a key or a name, behind its mark. -/
  | text (text : String)
  | number (text : String)
  | index (text : String)
  | priority (text : String)
  | params (params : List Param)

/-- A parameter has a default. -/
def Param.isOptional : Param → Bool
  | .mk _ _ default => default.isSome

/-- An item cannot be read, and this is the fault. -/
inductive Item.Malformed : Item → Fault → Prop
  | text {text : String} {e : Text.EscapeError} :
    Text.decode text = .error e → Malformed (.text text) (.escape e)
  | number {text : String} : numberOf? text = none → Malformed (.number text) (numberFault text)
  | index {text : String} : wordOf? text = none → Malformed (.index text) .index
  | priority {text : String} : wordOf? text = none → Malformed (.priority text) .priority
  /-- Some parameter without default comes after one that has a default. -/
  | params {params : List Param} :
    ¬ params.Pairwise (fun p q => p.isOptional = true → q.isOptional = true) →
    Malformed (.params params) .defaults

/-- The value of an argument. -/
def Arg.value : Arg → Expr
  | .mk _ _ value => value

/-- The defaults of parameters. -/
def defaultNodes (params : List Param) : List Node :=
  params.filterMap fun | .mk _ _ default => default.map .expr

/-- The nodes of a further branch. -/
def FunctionElseIf.nodes : FunctionElseIf → List Node
  | .mk _ condition body => .expr condition :: body.map .function

/-- The nodes of a further branch. -/
def BlockElseIf.nodes : BlockElseIf → List Node
  | .mk _ condition body => .expr condition :: body.map .block

/-- The nodes of a further branch. -/
def TopElseIf.nodes : TopElseIf → List Node
  | .mk _ condition body => .expr condition :: body.map .top

namespace Node

/-- The place of a node. -/
@[simp] def loc : Node → Coordinate
  | expr (.number loc _) | expr (.string loc _) | expr (.boolean loc _) | expr (.null loc)
  | expr (.deletion loc) | expr (.variable loc _) | expr (.localVariable loc _)
  | expr (.unary loc _ _) | expr (.binary loc _ _ _) | expr (.subscript loc _ _)
  | expr (.call loc _ _) | expr (.memberCall loc _ _ _) | expr (.ternary loc _ _ _)
  | expr (.list loc _) | expr (.object loc _) | expr (.closure loc _ _)
  | entry (.mk loc _ _)
  | function (.declare loc _ _) | function (.ret loc _) | function (.expression loc _)
  | function (.conditional loc _ _ _ _) | function (.forRange loc _ _ _ _ _)
  | function (.forEach loc _ _ _ _) | function (.whileTrue loc _ _)
  | selector (.ofType loc _) | selector (.withName loc _) | selector (.withClass loc _)
  | selector (.ruleset loc _) | selector (.wildcard loc) | selector (.withoutClass loc _)
  | selector (.withoutName loc _) | selector (.child loc _ _) | selector (.intersection loc _ _)
  | selector (.combination loc _ _) | selector (.addition loc _)
  | requirement (.requireMod loc _) | requirement (.requireNotMod loc _)
  | requirement (.runAtStage loc _)
  | indexer (.position loc _) | indexer (.ofType loc _) | indexer (.ofClass loc _)
  | indexer (.key loc _)
  | block (.declare loc _ _) | block (.field loc _ _ _) | block (.set loc _)
  | block (.delete loc) | block (.merge loc _) | block (.includeMixin loc _ _)
  | block (.selection loc _ _ _) | block (.conditional loc _ _ _ _)
  | block (.forRange loc _ _ _ _ _) | block (.forEach loc _ _ _ _) | block (.whileTrue loc _ _)
  | top (.importLibrary loc _) | top (.declare loc _ _) | top (.stage loc _ _)
  | top (.selection loc _ _ _) | top (.function loc _ _ _) | top (.mixin loc _ _ _)
  | top (.conditional loc _ _ _ _) => loc

/-- The item that has to be read before the others of the node are. -/
@[simp] def gate? : Node → Option Item
  | expr (.closure _ params _) => some (.params params)
  | top (.stage _ _ priority) => some (.priority priority)
  | top (.function _ _ params _) => some (.params params)
  | top (.mixin _ _ params _) => some (.params params)
  | _ => none

/-- The other items of the node. -/
@[simp] def tokens : Node → List Item
  | expr (.number _ text) => [.number text]
  | expr (.string _ text) => [.text text]
  | entry (.mk _ key _) => [.text key]
  | selector (.ofType _ text) => [.text text]
  | selector (.withName _ text) => [.text (withoutMark "#" text)]
  | selector (.withClass _ text) => [.text (withoutMark "." text)]
  | selector (.ruleset _ text) => [.text (withoutMark ":" text)]
  | selector (.withoutClass _ text) => [.text (withoutMark "~." text)]
  | selector (.withoutName _ text) => [.text (withoutMark "~#" text)]
  | selector (.addition _ text) => [.text (withoutMark "+" text)]
  | requirement (.requireMod _ text) => [.text text]
  | requirement (.requireNotMod _ text) => [.text text]
  | requirement (.runAtStage _ text) => [.text text]
  | indexer (.position _ text) => [.index text]
  | indexer (.ofType _ text) => [.text text]
  | indexer (.ofClass _ text) => [.text (withoutMark "." text)]
  | indexer (.key _ text) => [.text text]
  | block (.field _ key _ _) => [.text key]
  | block (.includeMixin _ name _) => [.text name]
  | top (.importLibrary _ text) => [.text text]
  | top (.stage _ name _) => [.text name]
  | top (.function _ name _ _) => [.text name]
  | top (.mixin _ name _ _) => [.text name]
  | _ => []

/-- The defaults of the parameters of the node. -/
@[simp] def defaults : Node → List Node
  | expr (.closure _ params _) => defaultNodes params
  | top (.function _ _ params _) => defaultNodes params
  | top (.mixin _ _ params _) => defaultNodes params
  | _ => []

/-- The other nodes that stand directly in the node. -/
@[simp] def inner : Node → List Node
  | expr (.unary _ _ operand) => [.expr operand]
  | expr (.binary _ _ left right) => [.expr left, .expr right]
  | expr (.subscript _ target index) => [.expr target, .expr index]
  | expr (.call _ _ args) => args.map fun arg => .expr arg.value
  | expr (.memberCall _ target _ args) => .expr target :: args.map fun arg => .expr arg.value
  | expr (.ternary _ condition whenTrue whenFalse) =>
    [.expr condition, .expr whenTrue, .expr whenFalse]
  | expr (.list _ items) => items.map .expr
  | expr (.object _ entries) => entries.map .entry
  | expr (.closure _ _ body) => body.map .function
  | entry (.mk _ _ value) => [.expr value]
  | function (.declare _ _ value) => [.expr value]
  | function (.ret _ value) => value.toList.map .expr
  | function (.expression _ value) => [.expr value]
  | function (.conditional _ condition body elseIfs otherwise) =>
    .expr condition :: (body.map .function ++ elseIfs.flatMap FunctionElseIf.nodes ++
      (otherwise.getD []).map .function)
  | function (.forRange _ _ first last _ body) => .expr first :: .expr last :: body.map .function
  | function (.forEach _ _ _ iterable body) => .expr iterable :: body.map .function
  | function (.whileTrue _ condition body) => .expr condition :: body.map .function
  | selector (.child _ above below) => [.selector above, .selector below]
  | selector (.intersection _ left right) => [.selector left, .selector right]
  | selector (.combination _ left right) => [.selector left, .selector right]
  | block (.declare _ _ value) => [.expr value]
  | block (.field _ _ position value) => position.toList.map .indexer ++ [.expr value]
  | block (.set _ value) => [.expr value]
  | block (.merge _ value) => [.expr value]
  | block (.includeMixin _ _ args) => args.map fun arg => .expr arg.value
  | block (.selection _ conditions which body) =>
    conditions.map .requirement ++ .selector which :: body.map .block
  | block (.conditional _ condition body elseIfs otherwise) =>
    .expr condition :: (body.map .block ++ elseIfs.flatMap BlockElseIf.nodes ++
      (otherwise.getD []).map .block)
  | block (.forRange _ _ first last _ body) => .expr first :: .expr last :: body.map .block
  | block (.forEach _ _ _ iterable body) => .expr iterable :: body.map .block
  | block (.whileTrue _ condition body) => .expr condition :: body.map .block
  | top (.declare _ _ value) => [.expr value]
  | top (.selection _ conditions which body) =>
    conditions.map .requirement ++ .selector which :: body.map .block
  | top (.function _ _ _ body) => body.map .function
  | top (.mixin _ _ _ body) => body.map .block
  | top (.conditional _ condition body elseIfs otherwise) =>
    .expr condition :: (body.map .top ++ elseIfs.flatMap TopElseIf.nodes ++
      (otherwise.getD []).map .top)
  | _ => []

/-- A node owns an item. -/
def Owns (n : Node) (item : Item) : Prop :=
  n.gate? = some item ∨ item ∈ n.tokens

/-- A node stands directly in another. -/
def Contains (n n' : Node) : Prop :=
  n' ∈ n.defaults ∨ n' ∈ n.inner

/-- The gate of a node is malformed. -/
def Closed (n : Node) : Prop :=
  ∃ gate fault, n.gate? = some gate ∧ gate.Malformed fault

/-- The items of a node that are looked at. -/
def Shows (n : Node) (item : Item) : Prop :=
  n.gate? = some item ∨ (¬ n.Closed ∧ item ∈ n.tokens)

/-- The nodes in a node that are looked at. -/
def Opens (n n' : Node) : Prop :=
  n' ∈ n.defaults ∨ (¬ n.Closed ∧ n' ∈ n.inner)

/-- The problems of a node and of all that stands in it. -/
@[simp] def problems : Node → List Problem
  | expr e => e.problems
  | entry e => entryProblems [e]
  | function s => s.problems
  | selector s => s.problems
  | requirement a => a.problems
  | indexer i => i.problems
  | block s => s.problems
  | top s => s.problems

end Node

/-! ## Items one by one -/

/-- No parameter without default comes after one that has a default. -/
theorem defaultsTrail_readParams_iff (params : List Param) :
    defaultsTrail (readParams params) = true ↔
      params.Pairwise fun p q => p.isOptional = true → q.isOptional = true := by
  have hoptional : (readParams params).map (fun p => p.default.isSome) =
      params.map fun p => p.isOptional := by
    induction params with
    | nil => rfl
    | cons p rest ih =>
      obtain ⟨loc, name, default⟩ := p
      rw [readParams, List.map_cons, List.map_cons, ih]
      cases default <;> rfl
  -- Both sides only ask which of the parameters are optional.
  have hread := List.pairwise_map (f := fun p : Graft.Param => p.default.isSome)
    (R := fun p q : Bool => p = true → q = true) (l := readParams params)
  have hdraft := List.pairwise_map (f := fun p : Param => p.isOptional)
    (R := fun p q : Bool => p = true → q = true) (l := params)
  rw [defaultsTrail_iff, ← hread, hoptional, hdraft]

/-- The problems of an item at a place. -/
def Item.problems (loc : Coordinate) : Item → List Problem
  | .text raw => nameProblems loc raw
  | .number raw =>
    match numberOf? raw with
    | some _ => []
    | none => [⟨loc, numberFault raw⟩]
  | .index raw =>
    match wordOf? raw with
    | some _ => []
    | none => [⟨loc, .index⟩]
  | .priority raw =>
    match wordOf? raw with
    | some _ => []
    | none => [⟨loc, .priority⟩]
  | .params ps => if defaultsTrail (readParams ps) then [] else [⟨loc, .defaults⟩]

/-- The problems of an item are its faults, at the place where it stands. Each kind of item is read
in its own way. -/
theorem Item.mem_problems_iff {loc : Coordinate} {item : Item} {p : Problem} :
    p ∈ item.problems loc ↔ ∃ fault, item.Malformed fault ∧ p = ⟨loc, fault⟩ := by
  constructor
  · intro h
    cases item with
    | text raw =>
      simp only [Item.problems, nameProblems] at h
      split at h
      · cases h
      · rename_i e he
        exact ⟨_, .text he, List.mem_singleton.mp h⟩
    | number raw =>
      simp only [Item.problems] at h
      split at h
      · cases h
      · rename_i hnone
        exact ⟨_, .number hnone, List.mem_singleton.mp h⟩
    | index raw =>
      simp only [Item.problems] at h
      split at h
      · cases h
      · rename_i hnone
        exact ⟨_, .index hnone, List.mem_singleton.mp h⟩
    | priority raw =>
      simp only [Item.problems] at h
      split at h
      · cases h
      · rename_i hnone
        exact ⟨_, .priority hnone, List.mem_singleton.mp h⟩
    | params ps =>
      simp only [Item.problems] at h
      split at h
      · cases h
      · rename_i htrail
        exact ⟨_, .params fun hps => htrail ((defaultsTrail_readParams_iff ps).mpr hps),
          List.mem_singleton.mp h⟩
  · rintro ⟨fault, hfault, rfl⟩
    cases hfault with
    | text he =>
      simp only [Item.problems, nameProblems, he]
      exact List.mem_singleton_self _
    | number hnone | index hnone | priority hnone =>
      simp only [Item.problems, hnone]
      exact List.mem_singleton_self _
    | params hps =>
      simp only [Item.problems]
      rw [if_neg fun htrail => hps ((defaultsTrail_readParams_iff _).mp htrail)]
      exact List.mem_singleton_self _

/-! ## Lists of nodes -/

/-- The problems of nodes in turn. -/
def Node.problemsIn (ns : List Node) : List Problem :=
  ns.flatMap Node.problems

@[simp] theorem Node.problemsIn_nil : problemsIn [] = [] :=
  rfl

@[simp] theorem Node.problemsIn_append (ns others : List Node) :
    problemsIn (ns ++ others) = problemsIn ns ++ problemsIn others :=
  List.flatMap_append

@[simp] theorem Node.problemsIn_cons (n : Node) (rest : List Node) :
    problemsIn (n :: rest) = n.problems ++ problemsIn rest :=
  List.flatMap_cons

/-- Lists of expressions, of arguments, of entries and of statements are reviewed as the nodes that
stand in them, one after the other. -/
theorem exprProblems_eq (es : List Expr) : exprProblems es = Node.problemsIn (es.map .expr) := by
  induction es with
  | nil => rfl
  | cons e rest ih => rw [exprProblems, ih, List.map_cons, Node.problemsIn_cons]; rfl

theorem argProblems_eq (args : List Arg) :
    argProblems args = Node.problemsIn (args.map fun arg => .expr arg.value) := by
  induction args with
  | nil => rfl
  | cons arg rest ih =>
    obtain ⟨loc, name, value⟩ := arg
    rw [argProblems, ih, List.map_cons, Node.problemsIn_cons]
    rfl

theorem entryProblems_eq (entries : List Entry) :
    entryProblems entries = Node.problemsIn (entries.map .entry) := by
  induction entries with
  | nil => rfl
  | cons entry rest ih =>
    obtain ⟨loc, key, value⟩ := entry
    rw [entryProblems, ih, List.map_cons, Node.problemsIn_cons, Node.problems, entryProblems,
      entryProblems, List.append_nil]

/-- Of parameters, only the defaults are reviewed. -/
theorem paramProblems_eq (params : List Param) :
    paramProblems params = Node.problemsIn (defaultNodes params) := by
  induction params with
  | nil => rfl
  | cons param rest ih =>
    obtain ⟨loc, name, default⟩ := param
    cases default with
    | none => exact ih
    | some e => rw [paramProblems, ih]; rfl

theorem defaultProblems_eq (default : Option Expr) :
    defaultProblems default = Node.problemsIn (default.toList.map .expr) := by
  cases default with
  | none => rfl
  | some e => exact (List.append_nil _).symm

theorem functionBodyProblems_eq (body : List FunctionStatement) :
    functionBodyProblems body = Node.problemsIn (body.map .function) := by
  induction body with
  | nil => rfl
  | cons s rest ih => rw [functionBodyProblems, ih, List.map_cons, Node.problemsIn_cons]; rfl

/-- Of further branches, the conditions and the bodies are. -/
theorem functionElseIfProblems_eq (elseIfs : List FunctionElseIf) :
    functionElseIfProblems elseIfs = Node.problemsIn (elseIfs.flatMap FunctionElseIf.nodes) := by
  induction elseIfs with
  | nil => rfl
  | cons elseIf rest ih =>
    obtain ⟨loc, condition, body⟩ := elseIf
    rw [functionElseIfProblems, ih, functionBodyProblems_eq, List.flatMap_cons,
      Node.problemsIn_append, FunctionElseIf.nodes, Node.problemsIn_cons]
    rfl

theorem blockProblems_eq (body : List BlockStatement) :
    blockProblems body = Node.problemsIn (body.map .block) := by
  induction body with
  | nil => rfl
  | cons s rest ih => rw [blockProblems, ih, List.map_cons, Node.problemsIn_cons]; rfl

theorem blockElseIfProblems_eq (elseIfs : List BlockElseIf) :
    blockElseIfProblems elseIfs = Node.problemsIn (elseIfs.flatMap BlockElseIf.nodes) := by
  induction elseIfs with
  | nil => rfl
  | cons elseIf rest ih =>
    obtain ⟨loc, condition, body⟩ := elseIf
    rw [blockElseIfProblems, ih, blockProblems_eq, List.flatMap_cons, Node.problemsIn_append,
      BlockElseIf.nodes, Node.problemsIn_cons]
    rfl

theorem topProblems_eq (body : List TopStatement) :
    topProblems body = Node.problemsIn (body.map .top) := by
  induction body with
  | nil => rfl
  | cons s rest ih => rw [topProblems, ih, List.map_cons, Node.problemsIn_cons]; rfl

theorem topElseIfProblems_eq (elseIfs : List TopElseIf) :
    topElseIfProblems elseIfs = Node.problemsIn (elseIfs.flatMap TopElseIf.nodes) := by
  induction elseIfs with
  | nil => rfl
  | cons elseIf rest ih =>
    obtain ⟨loc, condition, body⟩ := elseIf
    rw [topElseIfProblems, ih, topProblems_eq, List.flatMap_cons, Node.problemsIn_append,
      TopElseIf.nodes, Node.problemsIn_cons]
    rfl

theorem attributeProblems_eq (attributes : List Attribute) :
    attributes.flatMap Attribute.problems = Node.problemsIn (attributes.map .requirement) := by
  rw [Node.problemsIn, List.flatMap_map]
  rfl

theorem indexerProblems_eq (indexer : Option Indexer) :
    indexerProblems indexer = Node.problemsIn (indexer.toList.map .indexer) := by
  cases indexer with
  | none => rfl
  | some i => exact (List.append_nil _).symm

/-! ## One node -/

attribute [simp] Expr.problems entryProblems FunctionStatement.problems Selector.problems
  Attribute.problems Indexer.problems BlockStatement.problems TopStatement.problems Item.problems

/-- What is looked at behind the gate of a node: its other items, and the other nodes in it. -/
def Node.problemsInside (n : Node) : List Problem :=
  n.tokens.flatMap (Item.problems n.loc) ++ problemsIn n.inner

/-- An expression without a gate has the problems of its items and of what stands in it. Only
closures have a gate. -/
theorem Expr.problems_eq (e : Expr) (h : (Node.expr e).gate? = none) :
    (Node.expr e).problems = (Node.expr e).problemsInside := by
  cases e with
  | number loc raw =>
    cases hread : numberOf? raw <;>
      simp [Node.problemsInside, hread]
  | closure loc params body => cases h
  | _ =>
    simp [Node.problemsInside, exprProblems_eq, argProblems_eq, entryProblems_eq]

theorem Entry.problems_eq (e : Entry) :
    (Node.entry e).problems = (Node.entry e).problemsInside := by
  obtain ⟨loc, key, value⟩ := e
  simp [Node.problemsInside]

/-- Statements of functions have no gate, and no items of their own. -/
theorem FunctionStatement.problems_eq (s : FunctionStatement) :
    (Node.function s).problems = (Node.function s).problemsInside := by
  cases s with
  | conditional loc condition body elseIfs otherwise =>
    cases otherwise <;>
      simp [Node.problemsInside, functionBodyProblems_eq, functionElseIfProblems_eq]
  | _ =>
    simp [Node.problemsInside, functionBodyProblems_eq, defaultProblems_eq]

theorem Selector.problems_eq (s : Selector) :
    (Node.selector s).problems = (Node.selector s).problemsInside := by
  cases s <;> simp [Node.problemsInside]

theorem Attribute.problems_eq (a : Attribute) :
    (Node.requirement a).problems = (Node.requirement a).problemsInside := by
  cases a <;> simp [Node.problemsInside]

theorem Indexer.problems_eq (i : Indexer) :
    (Node.indexer i).problems = (Node.indexer i).problemsInside := by
  cases i with
  | position loc raw =>
    cases hread : wordOf? raw <;>
      simp [Node.problemsInside, hread]
  | _ => simp [Node.problemsInside]

/-- Statements of blocks have no gate. -/
theorem BlockStatement.problems_eq (s : BlockStatement) :
    (Node.block s).problems = (Node.block s).problemsInside := by
  cases s with
  | conditional loc condition body elseIfs otherwise =>
    cases otherwise <;>
      simp [Node.problemsInside, blockProblems_eq, blockElseIfProblems_eq]
  | _ =>
    simp [Node.problemsInside, blockProblems_eq, argProblems_eq, attributeProblems_eq,
      indexerProblems_eq]

/-- Of the statements of a document, stages, functions and mixins have a gate. -/
theorem TopStatement.problems_eq (s : TopStatement) (h : (Node.top s).gate? = none) :
    (Node.top s).problems = (Node.top s).problemsInside := by
  cases s with
  | stage | function | mixin => cases h
  | conditional loc condition body elseIfs otherwise =>
    cases otherwise <;>
      simp [Node.problemsInside, topProblems_eq, topElseIfProblems_eq]
  | _ =>
    simp [Node.problemsInside, blockProblems_eq, attributeProblems_eq]

namespace Node

/-- A node without a gate has the problems that are inside it. -/
theorem problems_of_ungated {n : Node} (h : n.gate? = none) :
    n.problems = n.problemsInside := by
  cases n with
  | expr e => exact e.problems_eq h
  | entry e => exact e.problems_eq
  | function s => exact s.problems_eq
  | selector s => exact s.problems_eq
  | requirement a => exact a.problems_eq
  | indexer i => exact i.problems_eq
  | block s => exact s.problems_eq
  | top s => exact s.problems_eq h

/-- Where there is no gate, there are no parameters. -/
theorem defaults_of_ungated {n : Node} (h : n.gate? = none) : n.defaults = [] := by
  cases n with
  | expr e =>
    cases e with
    | closure => cases h
    | _ => rfl
  | top s =>
    cases s with
    | function | mixin => cases h
    | _ => rfl
  | _ => rfl

/-- A node with a gate has the problems of its defaults, those of the gate, and if there are none
at the gate, the problems that are inside. -/
theorem problems_of_gated {n : Node} {gate : Item} (h : n.gate? = some gate) :
    n.problems = problemsIn n.defaults ++ (gate.problems n.loc ++
      if gate.problems n.loc = [] then n.problemsInside else []) := by
  cases n with
  | expr e =>
    cases e with
    | closure loc params body =>
      cases h
      by_cases htrail : defaultsTrail (readParams params) = true <;>
        simp [problemsInside, paramProblems_eq, functionBodyProblems_eq, htrail]
    | _ => cases h
  | top s =>
    cases s with
    | stage loc name priority =>
      cases h
      cases hread : wordOf? priority <;>
        simp [problemsInside, hread]
    | function loc name params body | mixin loc name params body =>
      cases h
      by_cases htrail : defaultsTrail (readParams params) = true <;>
        simp [problemsInside, paramProblems_eq, functionBodyProblems_eq, blockProblems_eq,
          htrail]
    | _ => cases h
  | _ => cases h

theorem mem_problemsIn_iff {ns : List Node} {p : Problem} :
    p ∈ problemsIn ns ↔ ∃ n ∈ ns, p ∈ n.problems :=
  List.mem_flatMap

/-- A problem inside of a node is one of its items, or one of a node that stands in it. -/
theorem mem_problemsInside_iff {n : Node} {p : Problem} :
    p ∈ n.problemsInside ↔
      (∃ item ∈ n.tokens, p ∈ item.problems n.loc) ∨ ∃ n' ∈ n.inner, p ∈ n'.problems := by
  rw [problemsInside, List.mem_append, List.mem_flatMap, mem_problemsIn_iff]

/-- A gate is malformed if there is a problem at it. -/
theorem closed_iff {n : Node} {gate : Item} (h : n.gate? = some gate) :
    n.Closed ↔ gate.problems n.loc ≠ [] := by
  constructor
  · rintro ⟨gate', fault, hgate', hfault⟩ hnil
    obtain rfl := Option.some.inj (h.symm.trans hgate')
    have hmem : (⟨n.loc, fault⟩ : Problem) ∈ gate.problems n.loc :=
      Item.mem_problems_iff.mpr ⟨fault, hfault, rfl⟩
    rw [hnil] at hmem
    cases hmem
  · intro hne
    obtain ⟨p, hp⟩ := List.exists_mem_of_ne_nil _ hne
    obtain ⟨fault, hfault, _⟩ := Item.mem_problems_iff.mp hp
    exact ⟨gate, fault, h, hfault⟩

/-- **One node.** A problem of a node is that of an item it shows or of a node that it opens. -/
theorem mem_problems_iff {n : Node} {p : Problem} :
    p ∈ n.problems ↔
      (∃ item, n.Shows item ∧ p ∈ item.problems n.loc) ∨ ∃ n', n.Opens n' ∧ p ∈ n'.problems := by
  cases hgate : n.gate? with
  | none =>
    have hopen : ¬ n.Closed := by
      rintro ⟨gate, _, hsome, _⟩
      rw [hgate] at hsome
      cases hsome
    simp only [problems_of_ungated hgate, mem_problemsInside_iff, Shows, Opens, hgate,
      defaults_of_ungated hgate, hopen]
    simp
  | some gate =>
    rw [problems_of_gated hgate, List.mem_append, List.mem_append, mem_problemsIn_iff]
    have hopen_iff : ¬ n.Closed ↔ gate.problems n.loc = [] := by
      rw [closed_iff hgate, not_ne_iff]
    constructor
    · rintro (⟨n', hn', hp⟩ | hp | hp)
      · exact .inr ⟨n', .inl hn', hp⟩
      · exact .inl ⟨gate, .inl hgate, hp⟩
      · split at hp
        · rename_i hnil
          rcases mem_problemsInside_iff.mp hp with ⟨item, hitem, hp⟩ | ⟨n', hn', hp⟩
          · exact .inl ⟨item, .inr ⟨hopen_iff.mpr hnil, hitem⟩, hp⟩
          · exact .inr ⟨n', .inr ⟨hopen_iff.mpr hnil, hn'⟩, hp⟩
        · cases hp
    · rintro (⟨item, hgate' | ⟨hopen, hitem⟩, hp⟩ | ⟨n', hn' | ⟨hopen, hn'⟩, hp⟩)
      · obtain rfl := Option.some.inj (hgate.symm.trans hgate')
        exact .inr (.inl hp)
      · rw [if_pos (hopen_iff.mp hopen)]
        exact .inr (.inr (mem_problemsInside_iff.mpr (.inl ⟨item, hitem, hp⟩)))
      · exact .inl ⟨n', hn', hp⟩
      · rw [if_pos (hopen_iff.mp hopen)]
        exact .inr (.inr (mem_problemsInside_iff.mpr (.inr ⟨n', hn', hp⟩)))

/-! ## Nodes inside nodes -/

/-- All nodes of a list are smaller than this. -/
def Fit (k : Nat) (ns : List Node) : Prop :=
  ∀ n ∈ ns, sizeOf n < k

namespace Fit

variable {k : Nat} {ns others : List Node}

theorem nil : Fit k [] := fun _ hn => by cases hn

theorem cons {n : Node} (hn : sizeOf n < k) (h : Fit k ns) : Fit k (n :: ns) :=
  List.forall_mem_cons.mpr ⟨hn, h⟩

theorem append (h : Fit k ns) (hothers : Fit k others) : Fit k (ns ++ others) :=
  List.forall_mem_append.mpr ⟨h, hothers⟩

theorem mono (h : Fit k ns) {l : Nat} (hle : k ≤ l) : Fit l ns :=
  fun n hn => Nat.lt_of_lt_of_le (h n hn) hle

/-- The nodes that are made of the elements of a list are hardly larger than these. -/
theorem map {α : Type} [SizeOf α] {f : α → Node} (hf : ∀ a, sizeOf (f a) ≤ 1 + sizeOf a)
    (items : List α) : Fit (1 + sizeOf items) (items.map f) := by
  intro n hn
  obtain ⟨a, ha, rfl⟩ := List.mem_map.mp hn
  have hlt := List.sizeOf_lt_of_mem ha
  have hle := hf a
  omega

theorem args (args : List Arg) :
    Fit (1 + sizeOf args) (args.map fun arg => .expr arg.value) := by
  refine map (fun arg => ?_) args
  obtain ⟨loc, name, value⟩ := arg
  simp only [Arg.value, expr.sizeOf_spec, Arg.mk.sizeOf_spec]
  omega

theorem defaultNodes (params : List Param) :
    Fit (1 + sizeOf params) (defaultNodes params) := by
  intro n hn
  obtain ⟨⟨loc, name, default⟩, hparam, hdefault⟩ := List.mem_filterMap.mp hn
  have hlt := List.sizeOf_lt_of_mem hparam
  obtain ⟨e, rfl, rfl⟩ := Option.map_eq_some_iff.mp hdefault
  simp only [Param.mk.sizeOf_spec, Option.some.sizeOf_spec, expr.sizeOf_spec] at hlt ⊢
  omega

/-- The nodes of further branches, whatever their statements are. -/
theorem flatMap {α : Type} [SizeOf α] {nodes : α → List Node}
    (hnodes : ∀ a, Fit (1 + sizeOf a) (nodes a)) (items : List α) :
    Fit (1 + sizeOf items) (items.flatMap nodes) := by
  intro n hn
  obtain ⟨a, ha, hn⟩ := List.mem_flatMap.mp hn
  have hlt := List.sizeOf_lt_of_mem ha
  have hlt' := hnodes a n hn
  omega

/-- The nodes of a last branch that may be missing. -/
theorem getD {α : Type} [SizeOf α] {f : α → Node} (hf : ∀ a, sizeOf (f a) ≤ 1 + sizeOf a)
    (otherwise : Option (List α)) :
    Fit (1 + sizeOf otherwise) ((otherwise.getD []).map f) := by
  cases otherwise with
  | none => exact nil
  | some items =>
    refine (map hf items).mono ?_
    rw [Option.some.sizeOf_spec]
    omega

theorem option {α : Type} [SizeOf α] {f : α → Node} (hf : ∀ a, sizeOf (f a) ≤ 1 + sizeOf a)
    (value : Option α) : Fit (1 + sizeOf value) (value.toList.map f) := by
  cases value with
  | none => exact nil
  | some a =>
    refine cons ?_ nil
    have hle := hf a
    rw [Option.some.sizeOf_spec]
    omega

end Fit

/-- What stands in an expression is smaller. Each constructor is taken apart into its arguments. -/
theorem fit_expr (e : Expr) : Fit (1 + sizeOf e) ((expr e).defaults ++ (expr e).inner) := by
  cases e with
  | unary loc op operand => exact .cons (by simp +arith) .nil
  | binary loc op left right => exact .cons (by simp +arith) (.cons (by simp +arith) .nil)
  | subscript loc target index => exact .cons (by simp +arith) (.cons (by simp +arith) .nil)
  | call loc name args => exact (Fit.args args).mono (by simp)
  | memberCall loc target name args =>
    exact .cons (by simp +arith) ((Fit.args args).mono (by simp))
  | ternary loc condition whenTrue whenFalse =>
    exact .cons (by simp +arith) (.cons (by simp +arith) (.cons (by simp +arith) .nil))
  | list loc items => exact (Fit.map (fun _ => Nat.le_refl _) items).mono (by simp)
  | object loc entries => exact (Fit.map (fun _ => Nat.le_refl _) entries).mono (by simp)
  | closure loc params body =>
    exact ((Fit.defaultNodes params).mono (by simp +arith)).append
      ((Fit.map (fun _ => Nat.le_refl _) body).mono (by simp))
  | _ => exact .nil

theorem fit_functionElseIf (elseIf : FunctionElseIf) : Fit (1 + sizeOf elseIf) elseIf.nodes := by
  obtain ⟨loc, condition, body⟩ := elseIf
  exact .cons (by simp +arith) ((Fit.map (fun _ => Nat.le_refl _) body).mono (by simp))

/-- What stands in a statement of a function is smaller. -/
theorem fit_function (s : FunctionStatement) : Fit (1 + sizeOf s) (function s).inner := by
  cases s with
  | declare loc name value => exact .cons (by simp +arith) .nil
  | ret loc value => exact (Fit.option (fun _ => Nat.le_refl _) value).mono (by simp)
  | expression loc value => exact .cons (by simp +arith) .nil
  | conditional loc condition body elseIfs otherwise =>
    have hbody := Fit.map (f := .function) (fun _ => Nat.le_refl _) body
    have helseIfs := Fit.flatMap fit_functionElseIf elseIfs
    have hotherwise := Fit.getD (f := .function) (fun _ => Nat.le_refl _) otherwise
    exact .cons (by simp +arith) (((hbody.mono (by simp +arith)).append
      (helseIfs.mono (by simp +arith))).append (hotherwise.mono (by simp)))
  | forRange loc name first last end_ body =>
    have hbody := Fit.map (f := .function) (fun _ => Nat.le_refl _) body
    exact .cons (by simp +arith) (.cons (by simp +arith) (hbody.mono (by simp)))
  | forEach loc key name iterable body =>
    have hbody := Fit.map (f := .function) (fun _ => Nat.le_refl _) body
    exact .cons (by simp +arith) (hbody.mono (by simp))
  | whileTrue loc condition body =>
    have hbody := Fit.map (f := .function) (fun _ => Nat.le_refl _) body
    exact .cons (by simp +arith) (hbody.mono (by simp))

/-- What stands in a selector is smaller. -/
theorem fit_selector (s : Selector) : Fit (1 + sizeOf s) (selector s).inner := by
  cases s with
  | child loc above below => exact .cons (by simp +arith) (.cons (by simp +arith) .nil)
  | intersection loc left right => exact .cons (by simp +arith) (.cons (by simp +arith) .nil)
  | combination loc left right => exact .cons (by simp +arith) (.cons (by simp +arith) .nil)
  | _ => exact .nil

theorem fit_blockElseIf (elseIf : BlockElseIf) : Fit (1 + sizeOf elseIf) elseIf.nodes := by
  obtain ⟨loc, condition, body⟩ := elseIf
  exact .cons (by simp +arith) ((Fit.map (fun _ => Nat.le_refl _) body).mono (by simp))

/-- The nodes of a selection. -/
theorem fit_selection (attributes : List Attribute) (which : Selector)
    (body : List BlockStatement) :
    Fit (2 + sizeOf attributes + sizeOf which + sizeOf body)
      (attributes.map .requirement ++ .selector which :: body.map .block) := by
  have hattributes := Fit.map (f := .requirement) (fun _ => Nat.le_refl _) attributes
  have hbody := Fit.map (f := .block) (fun _ => Nat.le_refl _) body
  exact (hattributes.mono (by omega)).append (.cons (by simp +arith) (hbody.mono (by omega)))

/-- What stands in a statement of a block is smaller. -/
theorem fit_block (s : BlockStatement) : Fit (1 + sizeOf s) (block s).inner := by
  cases s with
  | declare loc name value => exact .cons (by simp +arith) .nil
  | field loc key position value =>
    exact ((Fit.option (fun _ => Nat.le_refl _) position).mono (by simp +arith)).append
      (.cons (by simp +arith) .nil)
  | set loc value => exact .cons (by simp +arith) .nil
  | delete loc => exact .nil
  | merge loc value => exact .cons (by simp +arith) .nil
  | includeMixin loc name args => exact (Fit.args args).mono (by simp)
  | selection loc attributes which body =>
    exact (fit_selection attributes which body).mono (by simp +arith)
  | conditional loc condition body elseIfs otherwise =>
    have hbody := Fit.map (f := .block) (fun _ => Nat.le_refl _) body
    have helseIfs := Fit.flatMap fit_blockElseIf elseIfs
    have hotherwise := Fit.getD (f := .block) (fun _ => Nat.le_refl _) otherwise
    exact .cons (by simp +arith) (((hbody.mono (by simp +arith)).append
      (helseIfs.mono (by simp +arith))).append (hotherwise.mono (by simp)))
  | forRange loc name first last end_ body =>
    have hbody := Fit.map (f := .block) (fun _ => Nat.le_refl _) body
    exact .cons (by simp +arith) (.cons (by simp +arith) (hbody.mono (by simp)))
  | forEach loc key name iterable body =>
    have hbody := Fit.map (f := .block) (fun _ => Nat.le_refl _) body
    exact .cons (by simp +arith) (hbody.mono (by simp))
  | whileTrue loc condition body =>
    have hbody := Fit.map (f := .block) (fun _ => Nat.le_refl _) body
    exact .cons (by simp +arith) (hbody.mono (by simp))

theorem fit_topElseIf (elseIf : TopElseIf) : Fit (1 + sizeOf elseIf) elseIf.nodes := by
  obtain ⟨loc, condition, body⟩ := elseIf
  exact .cons (by simp +arith) ((Fit.map (fun _ => Nat.le_refl _) body).mono (by simp))

/-- What stands in a statement of a document is smaller, defaults included. -/
theorem fit_top (s : TopStatement) : Fit (1 + sizeOf s) ((top s).defaults ++ (top s).inner) := by
  cases s with
  | importLibrary loc raw => exact .nil
  | declare loc name value => exact .cons (by simp +arith) .nil
  | stage loc name priority => exact .nil
  | selection loc attributes which body =>
    exact (fit_selection attributes which body).mono (by simp +arith)
  | function loc name params body =>
    have hbody := Fit.map (f := .function) (fun _ => Nat.le_refl _) body
    exact ((Fit.defaultNodes params).mono (by simp +arith)).append (hbody.mono (by simp))
  | mixin loc name params body =>
    have hbody := Fit.map (f := .block) (fun _ => Nat.le_refl _) body
    exact ((Fit.defaultNodes params).mono (by simp +arith)).append (hbody.mono (by simp))
  | conditional loc condition body elseIfs otherwise =>
    have hbody := Fit.map (f := .top) (fun _ => Nat.le_refl _) body
    have helseIfs := Fit.flatMap fit_topElseIf elseIfs
    have hotherwise := Fit.getD (f := .top) (fun _ => Nat.le_refl _) otherwise
    exact .cons (by simp +arith) (((hbody.mono (by simp +arith)).append
      (helseIfs.mono (by simp +arith))).append (hotherwise.mono (by simp)))

/-- What stands in a node is smaller than the node. -/
theorem sizeOf_lt_of_contains {n n' : Node} (h : n.Contains n') : sizeOf n' < sizeOf n := by
  have hmem : n' ∈ n.defaults ++ n.inner := List.mem_append.mpr h
  cases n with
  | expr e => exact fit_expr e n' hmem
  | entry e =>
    obtain ⟨loc, key, value⟩ := e
    obtain rfl := List.mem_singleton.mp hmem
    simp +arith
  | function s => exact fit_function s n' hmem
  | selector s => exact fit_selector s n' hmem
  | requirement a => cases hmem
  | indexer i => cases hmem
  | block s => exact fit_block s n' hmem
  | top s => exact fit_top s n' hmem

/-! ## All nodes -/

/-- What a node opens stands in it. -/
theorem Opens.contains {n n' : Node} (h : n.Opens n') : n.Contains n' := by
  rcases h with h | ⟨_, h⟩
  · exact .inl h
  · exact .inr h

/-- A problem of a node is that of an item that some node shows to which one comes by way of nodes
that are opened. -/
theorem mem_problems_iff_opens {n : Node} {p : Problem} :
    p ∈ n.problems ↔ ∃ n' item, Relation.ReflTransGen Opens n n' ∧ n'.Shows item ∧
      p ∈ item.problems n'.loc := by
  constructor
  · -- Whatever is opened is smaller.
    induction hsize : sizeOf n using Nat.strongRecOn generalizing n with
    | ind size ih =>
      intro hp
      rcases mem_problems_iff.mp hp with ⟨item, hshows, hp⟩ | ⟨n', hopens, hp⟩
      · exact ⟨n, item, .refl, hshows, hp⟩
      · have hlt := sizeOf_lt_of_contains hopens.contains
        rw [hsize] at hlt
        obtain ⟨n'', item, hreach, hshows, hp⟩ := ih _ hlt rfl hp
        exact ⟨n'', item, hreach.head hopens, hshows, hp⟩
  · rintro ⟨n', item, hreach, hshows, hp⟩
    induction hreach using Relation.ReflTransGen.head_induction_on with
    | refl => exact mem_problems_iff.mpr (.inl ⟨item, hshows, hp⟩)
    | head hopens _ ih => exact mem_problems_iff.mpr (.inr ⟨_, hopens, ih⟩)

/-- Where a node is in another, one comes to it by way of nodes that are opened, or it is behind a
gate that is closed. -/
theorem opens_or_closed {n n' : Node} (h : Relation.ReflTransGen Contains n n') :
    Relation.ReflTransGen Opens n n' ∨
      ∃ m, Relation.ReflTransGen Contains n m ∧ m.Closed ∧ Relation.TransGen Contains m n' := by
  induction h with
  | refl => exact .inl .refl
  | @tail m n' hreach hcontains ih =>
    rcases ih with hopens | ⟨m', hreach', hclosed, hbehind⟩
    · by_cases hclosed : m.Closed
      · exact .inr ⟨m, hreach, hclosed, .single hcontains⟩
      · rcases hcontains with hdefault | hinner
        · exact .inl (hopens.tail (.inl hdefault))
        · exact .inl (hopens.tail (.inr ⟨hclosed, hinner⟩))
    · exact .inr ⟨m', hreach', hclosed, hbehind.tail hcontains⟩

end Node

end Draft

/-! ## Reviews -/

/-- A node stands somewhere in a draft. -/
def Draft.Holds (d : Draft) (n : Draft.Node) : Prop :=
  ∃ s ∈ d.statements, Relation.ReflTransGen Draft.Node.Contains (.top s) n

/-- A node of a draft is looked at: no gate is closed before it. -/
def Draft.Opens (d : Draft) (n : Draft.Node) : Prop :=
  ∃ s ∈ d.statements, Relation.ReflTransGen Draft.Node.Opens (.top s) n

/-- The report of a fault at a node. -/
def Draft.Node.report (n : Draft.Node) (fault : Fault) : Diagnostic :=
  ⟨.malformed, n.loc, fault.message⟩

/-- **Problems.** The problems of a draft are the malformed items that are shown by the nodes that
are looked at, each at the place of its node. -/
theorem Draft.mem_problems_iff {d : Draft} {p : Problem} :
    p ∈ d.problems ↔ ∃ n item fault, d.Opens n ∧ n.Shows item ∧ item.Malformed fault ∧
      p = ⟨n.loc, fault⟩ := by
  rw [problems, topProblems_eq, Node.mem_problemsIn_iff]
  constructor
  · rintro ⟨_, htop, hp⟩
    obtain ⟨s, hs, rfl⟩ := List.mem_map.mp htop
    obtain ⟨n, item, hreach, hshows, hp⟩ := Node.mem_problems_iff_opens.mp hp
    obtain ⟨fault, hfault, rfl⟩ := Item.mem_problems_iff.mp hp
    exact ⟨n, item, fault, ⟨s, hs, hreach⟩, hshows, hfault, rfl⟩
  · rintro ⟨n, item, fault, ⟨s, hs, hreach⟩, hshows, hfault, rfl⟩
    have hp : (⟨n.loc, fault⟩ : Problem) ∈ item.problems n.loc :=
      Item.mem_problems_iff.mpr ⟨fault, hfault, rfl⟩
    exact ⟨.top s, List.mem_map_of_mem hs,
      Node.mem_problems_iff_opens.mpr ⟨n, item, hreach, hshows, hp⟩⟩

namespace Review

/-- A review reports the problems of its draft. -/
theorem mem_diagnostics_iff {d : Draft} {x : Diagnostic} :
    x ∈ (ofDraft d).diagnostics ↔ ∃ n item fault, d.Opens n ∧ n.Shows item ∧
      item.Malformed fault ∧ x = n.report fault := by
  rw [ofDraft, List.mem_map]
  constructor
  · rintro ⟨p, hp, rfl⟩
    obtain ⟨n, item, fault, hn, hshows, hfault, rfl⟩ := Draft.mem_problems_iff.mp hp
    exact ⟨n, item, fault, hn, hshows, hfault, rfl⟩
  · rintro ⟨n, item, fault, hn, hshows, hfault, rfl⟩
    exact ⟨_, Draft.mem_problems_iff.mpr ⟨n, item, fault, hn, hshows, hfault, rfl⟩, rfl⟩

/-- **What a review reports.** The review of a draft reports the malformed items that are shown by
the nodes that are looked at, each at the place of its node and with its own message, and nothing
else. So a malformed item that a node of the draft owns is reported wherever it stands, unless a
gate is closed before it: the gate of its own node, or that of a node around it. -/
theorem reports_iff (d : Draft) :
    (∀ x, x ∈ (ofDraft d).diagnostics ↔ ∃ n item fault, d.Opens n ∧ n.Shows item ∧
      item.Malformed fault ∧ x = n.report fault) ∧
    ∀ n item fault, d.Holds n → n.Owns item → item.Malformed fault →
      n.report fault ∈ (ofDraft d).diagnostics ∨
      (n.Closed ∧ item ∈ n.tokens) ∨
      ∃ m, d.Holds m ∧ m.Closed ∧ Relation.TransGen Draft.Node.Contains m n := by
  refine ⟨fun x => mem_diagnostics_iff, ?_⟩
  rintro n item fault ⟨s, hs, hreach⟩ howns hfault
  rcases Draft.Node.opens_or_closed hreach with hopens | ⟨m, hm, hclosed, hbehind⟩
  · by_cases hclosed : n.Closed ∧ item ∈ n.tokens
    · exact .inr (.inl hclosed)
    · have hshows : n.Shows item := by
        rcases howns with hgate | htoken
        · exact .inl hgate
        · exact .inr ⟨fun hc => hclosed ⟨hc, htoken⟩, htoken⟩
      exact .inl (mem_diagnostics_iff.mpr ⟨n, item, fault, ⟨s, hs, hopens⟩, hshows, hfault, rfl⟩)
  · exact .inr (.inr ⟨m, ⟨s, hs, hm⟩, hclosed, hbehind⟩)

/-- The function `f(%a = 1, %b) { return "\q" }` has two malformed items: its parameters are in
disorder, and no character has the escape in its body. Only the first is reported. -/
theorem reports_not_all :
    ¬ ∀ (d : Draft) (n : Draft.Node) (item : Draft.Item) (fault : Fault),
      d.Holds n → n.Owns item → item.Malformed fault →
      n.report fault ∈ (ofDraft d).diagnostics := by
  intro hall
  let returned : Draft.Expr := .string .origin "\"\\q\""
  let params : List Draft.Param :=
    [.mk .origin "%a" (some (.number .origin "1")), .mk .origin "%b" none]
  let f : Draft.TopStatement := .function .origin "f" params [.ret .origin (some returned)]
  let d : Draft := ⟨.origin, [f]⟩
  have hholds : d.Holds (.expr returned) := by
    refine ⟨f, List.mem_singleton_self _, ?_⟩
    have hbody : Draft.Node.Contains (.top f) (.function (.ret .origin (some returned))) :=
      .inr (List.mem_singleton_self _)
    have hreturned : Draft.Node.Contains (.function (.ret .origin (some returned)))
        (.expr returned) := .inr (List.mem_singleton_self _)
    exact (Relation.ReflTransGen.single hbody).tail hreturned
  have howns : (Draft.Node.expr returned).Owns (.text "\"\\q\"") :=
    .inr (List.mem_singleton_self _)
  have hescape : Text.decode "\"\\q\"" = .error (.unknown 'q') := by
    decide +kernel
  have hmem := hall d _ _ _ hholds howns (.text hescape)
  have hdiagnostics :
      (ofDraft d).diagnostics = [⟨.malformed, .origin, Fault.defaults.message⟩] := by
    decide +kernel
  rw [hdiagnostics] at hmem
  revert hmem
  decide +kernel

end Review

end Graft
