import Graft.Draft.Basic
import Graft.Number.FloatText
import Graft.Patch.Basic

/-!
From drafts to patches.

Two functions walk a draft in the same order. One gives the patch: tokens are read, marks
and quotes stripped, and what cannot be read becomes an error node, except that a name with
a bad escape is kept as it is written. The other lists the faults with their places. A
parameter list with a required parameter behind an optional one makes an error node of the
whole definition; the rest of that definition is then not looked at, and neither is the
name of a stage whose priority cannot be read.
-/

set_option autoImplicit false

namespace Graft

/-- A fault and its place. -/
structure Problem where
  loc : Coordinate
  fault : Fault
  deriving Repr, DecidableEq

/-- A problem as it is reported. -/
def Problem.diagnostic (p : Problem) : Diagnostic :=
  ⟨.malformed, p.loc, p.fault.message⟩

/-! ## Tokens -/

/-- The text behind a mark, if it begins with it. -/
def withoutMark (mark text : String) : String :=
  if mark.toList.isPrefixOf text.toList then
    String.ofList (text.toList.drop mark.toList.length)
  else text

/-- The name of a variable, behind either of its marks. -/
def variableName (text : String) : String :=
  match text.toList with
  | '$' :: rest => String.ofList rest
  | '%' :: rest => String.ofList rest
  | _ => text

/-- The name that a token denotes; a token that denotes none is kept. -/
def nameOf (text : String) : String :=
  match Text.decode text with
  | .ok name => name
  | .error _ => text

/-- What is wrong with a name token. -/
def nameProblems (loc : Coordinate) (text : String) : List Problem :=
  match Text.decode text with
  | .ok _ => []
  | .error e => [⟨loc, .escape e⟩]

/-- An unsigned word between blanks. -/
def wordOf? (text : String) : Option UInt64 :=
  Numeral.word? (Text.trim text).toList

/-- A number between blanks: a signed word if it is one, else a double. -/
def numberOf? (text : String) : Option Value :=
  let cs := (Text.trim text).toList
  match Numeral.int64? cs with
  | some n => some (.int n)
  | none => (Binary64.read? cs).map .float

/-- The fault of a number token that cannot be read. -/
def numberFault (text : String) : Fault :=
  .number (Text.trim text)

namespace Draft

/-! ## Expressions and function bodies -/

mutual

/-- The expression of a draft. -/
def Expr.read : Draft.Expr → Graft.Expr
  | .number loc text =>
    match numberOf? text with
    | some v => .literal loc v
    | none => .error loc (numberFault text)
  | .string loc text =>
    match Text.decode text with
    | .ok s => .literal loc (.string s)
    | .error e => .error loc (.escape e)
  | .boolean loc value => .literal loc (.bool value)
  | .null loc => .literal loc .null
  | .deletion loc => .literal loc .deletion
  | .variable loc text => .variable loc (withoutMark "$" text)
  | .localVariable loc text => .localVariable loc (withoutMark "%" text)
  | .unary loc op operand => .unary loc op operand.read
  | .binary loc op left right => .binary loc op left.read right.read
  | .subscript loc target index => .subscript loc target.read index.read
  | .call loc name args => .call loc name (readArgs args)
  | .memberCall loc target name args => .memberCall loc target.read name (readArgs args)
  | .ternary loc condition whenTrue whenFalse =>
    .ternary loc condition.read whenTrue.read whenFalse.read
  | .list loc items => .list loc (readExprs items)
  | .object loc entries => .object loc (readEntries entries)
  | .closure loc params body =>
    let params := readParams params
    if defaultsTrail params then .closure loc params (readFunctionBody body)
    else .error loc .defaults

/-- The expressions of drafts. -/
def readExprs : List Draft.Expr → List Graft.Expr
  | [] => []
  | e :: rest => e.read :: readExprs rest

/-- The arguments of drafts. -/
def readArgs : List Draft.Arg → List Graft.Arg
  | [] => []
  | .mk loc name value :: rest => .mk loc (name.map variableName) value.read :: readArgs rest

/-- The entries of drafts. -/
def readEntries : List Draft.Entry → List Graft.Entry
  | [] => []
  | .mk loc key value :: rest => .mk loc (nameOf key) value.read :: readEntries rest

/-- The default of a draft. -/
def readDefault : Option Draft.Expr → Option Graft.Expr
  | none => none
  | some e => some e.read

/-- The parameters of drafts. -/
def readParams : List Draft.Param → List Graft.Param
  | [] => []
  | .mk loc name default :: rest =>
    .mk loc (variableName name) (readDefault default) :: readParams rest

/-- The statement of a draft. -/
def FunctionStatement.read : Draft.FunctionStatement → Statement
  | .declare loc name value => .declare loc (variableName name) value.read
  | .ret loc value => .ret loc (readDefault value)
  | .expression loc value => .expression loc value.read
  | .conditional loc condition body elseIfs otherwise =>
    .conditional loc <| .when loc condition.read (readFunctionBody body) <|
      readFunctionElseIfs elseIfs <|
        match otherwise with
        | some body => .otherwise (readFunctionBody body)
        | none => .nothing
  | .forRange loc name first last end_ body =>
    .forRange loc (variableName name) first.read last.read end_ (readFunctionBody body)
  | .forEach loc key name iterable body =>
    .forEach loc (key.map variableName) (variableName name) iterable.read (readFunctionBody body)
  | .whileTrue loc condition body => .whileTrue loc condition.read (readFunctionBody body)

/-- The statements of drafts. -/
def readFunctionBody : List Draft.FunctionStatement → List Statement
  | [] => []
  | s :: rest => s.read :: readFunctionBody rest

/-- The branches of drafts, before a last one. -/
def readFunctionElseIfs : List Draft.FunctionElseIf → Branches → Branches
  | [], last => last
  | .mk loc condition body :: rest, last =>
    .when loc condition.read (readFunctionBody body) (readFunctionElseIfs rest last)

end

mutual

/-- The problems of an expression. -/
def Expr.problems : Draft.Expr → List Problem
  | .number loc text =>
    match numberOf? text with
    | some _ => []
    | none => [⟨loc, numberFault text⟩]
  | .string loc text => nameProblems loc text
  | .boolean _ _ => []
  | .null _ => []
  | .deletion _ => []
  | .variable _ _ => []
  | .localVariable _ _ => []
  | .unary _ _ operand => operand.problems
  | .binary _ _ left right => left.problems ++ right.problems
  | .subscript _ target index => target.problems ++ index.problems
  | .call _ _ args => argProblems args
  | .memberCall _ target _ args => target.problems ++ argProblems args
  | .ternary _ condition whenTrue whenFalse =>
    condition.problems ++ whenTrue.problems ++ whenFalse.problems
  | .list _ items => exprProblems items
  | .object _ entries => entryProblems entries
  | .closure loc params body =>
    paramProblems params ++
      if defaultsTrail (readParams params) then functionBodyProblems body else [⟨loc, .defaults⟩]

/-- The problems of expressions. -/
def exprProblems : List Draft.Expr → List Problem
  | [] => []
  | e :: rest => e.problems ++ exprProblems rest

/-- The problems of arguments. -/
def argProblems : List Draft.Arg → List Problem
  | [] => []
  | .mk _ _ value :: rest => value.problems ++ argProblems rest

/-- The problems of entries. -/
def entryProblems : List Draft.Entry → List Problem
  | [] => []
  | .mk loc key value :: rest => nameProblems loc key ++ value.problems ++ entryProblems rest

/-- The problems of a default. -/
def defaultProblems : Option Draft.Expr → List Problem
  | none => []
  | some e => e.problems

/-- The problems of parameters. -/
def paramProblems : List Draft.Param → List Problem
  | [] => []
  | .mk _ _ default :: rest => defaultProblems default ++ paramProblems rest

/-- The problems of a statement. -/
def FunctionStatement.problems : Draft.FunctionStatement → List Problem
  | .declare _ _ value => value.problems
  | .ret _ value => defaultProblems value
  | .expression _ value => value.problems
  | .conditional _ condition body elseIfs otherwise =>
    condition.problems ++ functionBodyProblems body ++ functionElseIfProblems elseIfs ++
      match otherwise with
      | some body => functionBodyProblems body
      | none => []
  | .forRange _ _ first last _ body =>
    first.problems ++ last.problems ++ functionBodyProblems body
  | .forEach _ _ _ iterable body => iterable.problems ++ functionBodyProblems body
  | .whileTrue _ condition body => condition.problems ++ functionBodyProblems body

/-- The problems of statements. -/
def functionBodyProblems : List Draft.FunctionStatement → List Problem
  | [] => []
  | s :: rest => s.problems ++ functionBodyProblems rest

/-- The problems of further branches. -/
def functionElseIfProblems : List Draft.FunctionElseIf → List Problem
  | [] => []
  | .mk _ condition body :: rest =>
    condition.problems ++ functionBodyProblems body ++ functionElseIfProblems rest

end

/-! ## Selectors, attributes and indexers -/

/-- The selector of a draft. -/
def Selector.read : Draft.Selector → Graft.Selector
  | .ofType loc text => .ofType loc (nameOf text)
  | .withName loc text => .withName loc (nameOf (withoutMark "#" text))
  | .withClass loc text => .withClass loc (nameOf (withoutMark "." text))
  | .ruleset loc text => .ruleset loc (nameOf (withoutMark ":" text))
  | .wildcard loc => .wildcard loc
  | .withoutClass loc text => .withoutClass loc (nameOf (withoutMark "~." text))
  | .withoutName loc text => .withoutName loc (nameOf (withoutMark "~#" text))
  | .child loc above below => .child loc above.read below.read
  | .intersection loc left right => .intersection loc left.read right.read
  | .combination loc left right => .combination loc left.read right.read
  | .addition loc text => .addition loc (nameOf (withoutMark "+" text))

/-- The problems of a selector. -/
def Selector.problems : Draft.Selector → List Problem
  | .ofType loc text => nameProblems loc text
  | .withName loc text => nameProblems loc (withoutMark "#" text)
  | .withClass loc text => nameProblems loc (withoutMark "." text)
  | .ruleset loc text => nameProblems loc (withoutMark ":" text)
  | .wildcard _ => []
  | .withoutClass loc text => nameProblems loc (withoutMark "~." text)
  | .withoutName loc text => nameProblems loc (withoutMark "~#" text)
  | .child _ above below => above.problems ++ below.problems
  | .intersection _ left right => left.problems ++ right.problems
  | .combination _ left right => left.problems ++ right.problems
  | .addition loc text => nameProblems loc (withoutMark "+" text)

/-- The attribute of a draft. -/
def Attribute.read : Draft.Attribute → Graft.Attribute
  | .requireMod loc text => .requireMod loc (nameOf text)
  | .requireNotMod loc text => .requireNotMod loc (nameOf text)
  | .runAtStage loc text => .runAtStage loc (nameOf text)

/-- The problems of an attribute. -/
def Attribute.problems : Draft.Attribute → List Problem
  | .requireMod loc text => nameProblems loc text
  | .requireNotMod loc text => nameProblems loc text
  | .runAtStage loc text => nameProblems loc text

/-- The indexer of a draft. -/
def Indexer.read : Draft.Indexer → Graft.Indexer
  | .position loc text =>
    match wordOf? text with
    | some n => .position loc n
    | none => .error loc .index
  | .ofType loc text => .ofType loc (nameOf text)
  | .ofClass loc text => .ofClass loc (nameOf (withoutMark "." text))
  | .key loc text => .key loc (nameOf text)

/-- The problems of an indexer. -/
def Indexer.problems : Draft.Indexer → List Problem
  | .position loc text =>
    match wordOf? text with
    | some _ => []
    | none => [⟨loc, .index⟩]
  | .ofType loc text => nameProblems loc text
  | .ofClass loc text => nameProblems loc (withoutMark "." text)
  | .key loc text => nameProblems loc text

/-- The problems of an indexer that may be missing. -/
def indexerProblems : Option Draft.Indexer → List Problem
  | none => []
  | some i => i.problems

/-! ## Statements that edit -/

mutual

/-- The statement of a draft. -/
def BlockStatement.read : Draft.BlockStatement → Statement
  | .declare loc name value => .declare loc (variableName name) value.read
  | .field loc key indexer value =>
    .field loc (nameOf key) (indexer.map Indexer.read) value.read
  | .set loc value => .set loc value.read
  | .delete loc => .delete loc
  | .merge loc value => .merge loc value.read
  | .includeMixin loc name args => .includeMixin loc (nameOf name) (readArgs args)
  | .selection loc attributes selector body =>
    .selection loc (attributes.map Attribute.read) selector.read (readBlock body)
  | .conditional loc condition body elseIfs otherwise =>
    .conditional loc <| .when loc condition.read (readBlock body) <|
      readBlockElseIfs elseIfs <|
        match otherwise with
        | some body => .otherwise (readBlock body)
        | none => .nothing
  | .forRange loc name first last end_ body =>
    .forRange loc (variableName name) first.read last.read end_ (readBlock body)
  | .forEach loc key name iterable body =>
    .forEach loc (key.map variableName) (variableName name) iterable.read (readBlock body)
  | .whileTrue loc condition body => .whileTrue loc condition.read (readBlock body)

/-- The statements of drafts. -/
def readBlock : List Draft.BlockStatement → List Statement
  | [] => []
  | s :: rest => s.read :: readBlock rest

/-- The branches of drafts, before a last one. -/
def readBlockElseIfs : List Draft.BlockElseIf → Branches → Branches
  | [], last => last
  | .mk loc condition body :: rest, last =>
    .when loc condition.read (readBlock body) (readBlockElseIfs rest last)

end

mutual

/-- The problems of a statement. -/
def BlockStatement.problems : Draft.BlockStatement → List Problem
  | .declare _ _ value => value.problems
  | .field loc key indexer value =>
    nameProblems loc key ++ indexerProblems indexer ++ value.problems
  | .set _ value => value.problems
  | .delete _ => []
  | .merge _ value => value.problems
  | .includeMixin loc name args => nameProblems loc name ++ argProblems args
  | .selection _ attributes selector body =>
    attributes.flatMap Attribute.problems ++ selector.problems ++ blockProblems body
  | .conditional _ condition body elseIfs otherwise =>
    condition.problems ++ blockProblems body ++ blockElseIfProblems elseIfs ++
      match otherwise with
      | some body => blockProblems body
      | none => []
  | .forRange _ _ first last _ body => first.problems ++ last.problems ++ blockProblems body
  | .forEach _ _ _ iterable body => iterable.problems ++ blockProblems body
  | .whileTrue _ condition body => condition.problems ++ blockProblems body

/-- The problems of statements. -/
def blockProblems : List Draft.BlockStatement → List Problem
  | [] => []
  | s :: rest => s.problems ++ blockProblems rest

/-- The problems of further branches. -/
def blockElseIfProblems : List Draft.BlockElseIf → List Problem
  | [] => []
  | .mk _ condition body :: rest =>
    condition.problems ++ blockProblems body ++ blockElseIfProblems rest

end

/-! ## Statements at the top -/

mutual

/-- The statement of a draft. -/
def TopStatement.read : Draft.TopStatement → Statement
  | .importLibrary loc text => .importLibrary loc (nameOf text)
  | .declare loc name value => .declare loc (variableName name) value.read
  | .stage loc name priority =>
    match wordOf? priority with
    | some n => .stage loc (nameOf name) n
    | none => .error loc .priority
  | .selection loc attributes selector body =>
    .selection loc (attributes.map Attribute.read) selector.read (readBlock body)
  | .function loc name params body =>
    let params := readParams params
    if defaultsTrail params then .function loc (some (nameOf name)) params (readFunctionBody body)
    else .error loc .defaults
  | .mixin loc name params body =>
    let params := readParams params
    if defaultsTrail params then .mixin loc (nameOf name) params (readBlock body)
    else .error loc .defaults
  | .conditional loc condition body elseIfs otherwise =>
    .conditional loc <| .when loc condition.read (readTop body) <|
      readTopElseIfs elseIfs <|
        match otherwise with
        | some body => .otherwise (readTop body)
        | none => .nothing

/-- The statements of drafts. -/
def readTop : List Draft.TopStatement → List Statement
  | [] => []
  | s :: rest => s.read :: readTop rest

/-- The branches of drafts, before a last one. -/
def readTopElseIfs : List Draft.TopElseIf → Branches → Branches
  | [], last => last
  | .mk loc condition body :: rest, last =>
    .when loc condition.read (readTop body) (readTopElseIfs rest last)

end

mutual

/-- The problems of a statement. -/
def TopStatement.problems : Draft.TopStatement → List Problem
  | .importLibrary loc text => nameProblems loc text
  | .declare _ _ value => value.problems
  | .stage loc name priority =>
    match wordOf? priority with
    | some _ => nameProblems loc name
    | none => [⟨loc, .priority⟩]
  | .selection _ attributes selector body =>
    attributes.flatMap Attribute.problems ++ selector.problems ++ blockProblems body
  | .function loc name params body =>
    paramProblems params ++
      if defaultsTrail (readParams params) then
        nameProblems loc name ++ functionBodyProblems body
      else [⟨loc, .defaults⟩]
  | .mixin loc name params body =>
    paramProblems params ++
      if defaultsTrail (readParams params) then nameProblems loc name ++ blockProblems body
      else [⟨loc, .defaults⟩]
  | .conditional _ condition body elseIfs otherwise =>
    condition.problems ++ topProblems body ++ topElseIfProblems elseIfs ++
      match otherwise with
      | some body => topProblems body
      | none => []

/-- The problems of statements. -/
def topProblems : List Draft.TopStatement → List Problem
  | [] => []
  | s :: rest => s.problems ++ topProblems rest

/-- The problems of further branches. -/
def topElseIfProblems : List Draft.TopElseIf → List Problem
  | [] => []
  | .mk _ condition body :: rest =>
    condition.problems ++ topProblems body ++ topElseIfProblems rest

end

/-- The problems of a document, in the order in which they are met. -/
def problems (d : Draft) : List Problem :=
  topProblems d.statements

end Draft

/-- The patch of a draft. It is faulty when the draft has a problem. -/
def Patch.ofDraft (d : Draft) : Patch where
  loc := d.loc
  statements := Draft.readTop d.statements
  faulty := !d.problems.isEmpty

end Graft
