import Graft.Draft.Basic
import Graft.Json.Reader

/-!
Reading drafts from JSON.

Every node is an object with an optional coordinate, the name of its rule and the parts of
that rule side by side. Unknown parts are skipped and a known part may not be repeated;
lists may be left out where they may be empty, and only optional parts may be null. The
records inside a node (parameters, arguments, entries, further branches, coordinates) may
also be written as arrays.

A node is as deep as the JSON that holds it, so the greatest depth of nesting bounds the
recursion.
-/

set_option autoImplicit false

namespace Graft

open Json

/-- A coordinate: the file may be left out, line and column may not. -/
def Coordinate.ofJson? (j : Json) : Option Coordinate := do
  match ← record? ["file", "line", "column"] j with
  | [file, line, column] =>
    return {
      file := ← default? "" text? file
      line := ← (← line).nat?
      column := ← (← column).nat? }
  | _ => none

namespace Draft

/-- The coordinate of a record or node, where it is given. -/
def loc? (part : Option Json) : Option Coordinate :=
  default? .origin Coordinate.ofJson? part

/-- The coordinate and rule of a node. -/
def node? (rules : List String) (j : Json) : Option (Coordinate × String) := do
  match ← parts? ["coordinate", "rule"] j with
  | [loc, rule] => return (← loc? loc, ← tag? rules (← rule))
  | _ => none

/-- A list that may be left out. -/
def list? {α : Type} (read : Json → Option α) (part : Option Json) : Option (List α) :=
  default? [] (fun j => do (← items? j).mapM read) part

/-- The only part of a rule, a text. -/
def textPart? (key : String) (j : Json) : Option String := do
  match ← parts? [key] j with
  | [some part] => part.text?
  | _ => none

/-- The names of unary operators. -/
def unaryNames : List (String × UnaryOp) :=
  [("negate", .negate), ("plus", .plus), ("not", .not)]

/-- The names of binary operators. -/
def binaryNames : List (String × BinaryOp) :=
  [("equal", .equal), ("not_equal", .notEqual), ("less_than", .lessThan),
    ("greater_than", .greaterThan), ("less_equal", .lessEqual), ("greater_equal", .greaterEqual),
    ("add", .add), ("subtract", .subtract), ("multiply", .multiply), ("divide", .divide),
    ("modulo", .modulo), ("and", .and), ("or", .or)]

/-- The names of range ends. -/
def rangeNames : List (String × RangeEnd) :=
  [("to", .exclusive), ("through", .inclusive)]

/-- A choice by name. -/
def choice? {α : Type} (choices : List (String × α)) (j : Json) : Option α := do
  choices.lookup (← name? (choices.map Prod.fst) j)

/-! ## Expressions and function bodies -/

/-- The rules of expressions. -/
def exprRules : List String :=
  ["number", "string", "boolean", "null", "deletion", "variable", "local_variable", "unary",
    "binary", "subscript", "simple_call", "member_call", "ternary", "list", "object", "closure"]

/-- The rules of statements in functions. -/
def functionRules : List String :=
  ["variable_declaration", "return", "expression", "conditional", "for", "each", "while"]

mutual

/-- An expression at most `depth` nodes deep. -/
def expr? : (depth : Nat) → Json → Option Expr
  | 0, _ => none
  | depth + 1, j => do
    let (loc, rule) ← node? exprRules j
    match rule with
    | "number" => return .number loc (← textPart? "text" j)
    | "string" => return .string loc (← textPart? "text" j)
    | "boolean" =>
      match ← parts? ["value"] j with
      | [some value] => return .boolean loc (← value.bool?)
      | _ => none
    | "null" => return .null loc
    | "deletion" => return .deletion loc
    | "variable" => return .variable loc (← textPart? "text" j)
    | "local_variable" => return .localVariable loc (← textPart? "text" j)
    | "unary" =>
      match ← parts? ["operator", "operand"] j with
      | [some op, some operand] =>
        return .unary loc (← choice? unaryNames op) (← expr? depth operand)
      | _ => none
    | "binary" =>
      match ← parts? ["operator", "left", "right"] j with
      | [some op, some left, some right] =>
        return .binary loc (← choice? binaryNames op) (← expr? depth left) (← expr? depth right)
      | _ => none
    | "subscript" =>
      match ← parts? ["target", "index"] j with
      | [some target, some index] =>
        return .subscript loc (← expr? depth target) (← expr? depth index)
      | _ => none
    | "simple_call" =>
      match ← parts? ["name", "arguments"] j with
      | [some name, args] => return .call loc (← name.text?) (← list? (arg? depth) args)
      | _ => none
    | "member_call" =>
      match ← parts? ["target", "name", "arguments"] j with
      | [some target, some name, args] =>
        return .memberCall loc (← expr? depth target) (← name.text?) (← list? (arg? depth) args)
      | _ => none
    | "ternary" =>
      match ← parts? ["condition", "then", "otherwise"] j with
      | [some condition, some whenTrue, some whenFalse] =>
        return .ternary loc (← expr? depth condition) (← expr? depth whenTrue)
          (← expr? depth whenFalse)
      | _ => none
    | "list" =>
      match ← parts? ["elements"] j with
      | [elements] => return .list loc (← list? (expr? depth) elements)
      | _ => none
    | "object" =>
      match ← parts? ["entries"] j with
      | [entries] => return .object loc (← list? (entryOf? depth) entries)
      | _ => none
    | "closure" =>
      match ← parts? ["parameters", "body"] j with
      | [params, body] =>
        return .closure loc (← list? (param? depth) params)
          (← list? (functionStatement? depth) body)
      | _ => none
    | _ => none

/-- An argument. -/
def arg? : (depth : Nat) → Json → Option Arg
  | 0, _ => none
  | depth + 1, j => do
    match ← record? ["coordinate", "name", "value"] j with
    | [loc, name, some value] =>
      return .mk (← loc? loc) (← optional? text? name) (← expr? depth value)
    | _ => none

/-- An entry. -/
def entryOf? : (depth : Nat) → Json → Option Entry
  | 0, _ => none
  | depth + 1, j => do
    match ← record? ["coordinate", "key", "value"] j with
    | [loc, some key, some value] =>
      return .mk (← loc? loc) (← key.text?) (← expr? depth value)
    | _ => none

/-- A parameter. -/
def param? : (depth : Nat) → Json → Option Param
  | 0, _ => none
  | depth + 1, j => do
    match ← record? ["coordinate", "name", "default"] j with
    | [loc, some name, default] =>
      return .mk (← loc? loc) (← name.text?) (← optional? (expr? depth) default)
    | _ => none

/-- A statement of a function. -/
def functionStatement? : (depth : Nat) → Json → Option FunctionStatement
  | 0, _ => none
  | depth + 1, j => do
    let (loc, rule) ← node? functionRules j
    match rule with
    | "variable_declaration" =>
      match ← parts? ["variable", "value"] j with
      | [some name, some value] => return .declare loc (← name.text?) (← expr? depth value)
      | _ => none
    | "return" =>
      match ← parts? ["value"] j with
      | [value] => return .ret loc (← optional? (expr? depth) value)
      | _ => none
    | "expression" =>
      match ← parts? ["value"] j with
      | [some value] => return .expression loc (← expr? depth value)
      | _ => none
    | "conditional" =>
      match ← parts? ["condition", "body", "else_ifs", "else_body"] j with
      | [some condition, body, elseIfs, otherwise] =>
        return .conditional loc (← expr? depth condition)
          (← list? (functionStatement? depth) body) (← list? (functionElseIf? depth) elseIfs)
          (← optional? (fun j => do (← items? j).mapM (functionStatement? depth)) otherwise)
      | _ => none
    | "for" =>
      match ← parts? ["variable", "from", "to", "range", "body"] j with
      | [some name, some first, some last, some range, body] =>
        return .forRange loc (← name.text?) (← expr? depth first) (← expr? depth last)
          (← choice? rangeNames range) (← list? (functionStatement? depth) body)
      | _ => none
    | "each" =>
      match ← parts? ["key", "value", "iterable", "body"] j with
      | [key, some value, some iterable, body] =>
        return .forEach loc (← optional? text? key) (← value.text?) (← expr? depth iterable)
          (← list? (functionStatement? depth) body)
      | _ => none
    | "while" =>
      match ← parts? ["condition", "body"] j with
      | [some condition, body] =>
        return .whileTrue loc (← expr? depth condition) (← list? (functionStatement? depth) body)
      | _ => none
    | _ => none

/-- A further branch in a function. -/
def functionElseIf? : (depth : Nat) → Json → Option FunctionElseIf
  | 0, _ => none
  | depth + 1, j => do
    match ← record? ["coordinate", "condition", "body"] j with
    | [loc, some condition, body] =>
      return .mk (← loc? loc) (← expr? depth condition) (← list? (functionStatement? depth) body)
    | _ => none

end

/-! ## Selectors, attributes and indexers -/

/-- The rules of selectors. -/
def selectorRules : List String :=
  ["element", "name", "class", "ruleset", "wildcard", "without_class", "without_name", "child",
    "intersection", "combination", "element_addition"]

/-- A selector. -/
def selector? : (depth : Nat) → Json → Option Selector
  | 0, _ => none
  | depth + 1, j => do
    let (loc, rule) ← node? selectorRules j
    match rule with
    | "element" => return .ofType loc (← textPart? "text" j)
    | "name" => return .withName loc (← textPart? "text" j)
    | "class" => return .withClass loc (← textPart? "text" j)
    | "ruleset" => return .ruleset loc (← textPart? "text" j)
    | "wildcard" => return .wildcard loc
    | "without_class" => return .withoutClass loc (← textPart? "text" j)
    | "without_name" => return .withoutName loc (← textPart? "text" j)
    | "child" =>
      match ← parts? ["parent", "child"] j with
      | [some parent, some child] =>
        return .child loc (← selector? depth parent) (← selector? depth child)
      | _ => none
    | "intersection" =>
      match ← parts? ["left", "right"] j with
      | [some left, some right] =>
        return .intersection loc (← selector? depth left) (← selector? depth right)
      | _ => none
    | "combination" =>
      match ← parts? ["left", "right"] j with
      | [some left, some right] =>
        return .combination loc (← selector? depth left) (← selector? depth right)
      | _ => none
    | "element_addition" => return .addition loc (← textPart? "text" j)
    | _ => none

/-- An attribute. -/
def attribute? (j : Json) : Option Attribute := do
  let (loc, rule) ← node? ["require_mod", "require_not_mod", "run_at_stage"] j
  match rule with
  | "require_mod" => return .requireMod loc (← textPart? "name" j)
  | "require_not_mod" => return .requireNotMod loc (← textPart? "name" j)
  | _ => return .runAtStage loc (← textPart? "stage" j)

/-- An indexer. -/
def indexer? (j : Json) : Option Indexer := do
  let (loc, rule) ← node? ["number", "element", "class", "string"] j
  let text ← textPart? "text" j
  match rule with
  | "number" => return .position loc text
  | "element" => return .ofType loc text
  | "class" => return .ofClass loc text
  | _ => return .key loc text

/-! ## Statements that edit, and whole documents -/

/-- The rules of statements in selections and mixins. -/
def blockRules : List String :=
  ["variable_declaration", "field", "set", "delete", "merge", "include", "selection",
    "conditional", "for", "each", "while"]

/-- The rules of statements at the top. -/
def topRules : List String :=
  ["import", "variable_declaration", "stage_definition", "selection_block",
    "function_definition", "mixin_definition", "conditional"]

mutual

/-- A statement of a selection or mixin. -/
def blockStatement? : (depth : Nat) → Json → Option BlockStatement
  | 0, _ => none
  | depth + 1, j => do
    let (loc, rule) ← node? blockRules j
    match rule with
    | "variable_declaration" =>
      match ← parts? ["variable", "value"] j with
      | [some name, some value] => return .declare loc (← name.text?) (← expr? depth value)
      | _ => none
    | "field" =>
      match ← parts? ["key", "indexer", "value"] j with
      | [some key, indexer, some value] =>
        return .field loc (← key.text?) (← optional? indexer? indexer) (← expr? depth value)
      | _ => none
    | "set" =>
      match ← parts? ["value"] j with
      | [some value] => return .set loc (← expr? depth value)
      | _ => none
    | "delete" => return .delete loc
    | "merge" =>
      match ← parts? ["value"] j with
      | [some value] => return .merge loc (← expr? depth value)
      | _ => none
    | "include" =>
      match ← parts? ["name", "arguments"] j with
      | [some name, args] => return .includeMixin loc (← name.text?) (← list? (arg? depth) args)
      | _ => none
    | "selection" =>
      match ← parts? ["attributes", "selector", "body"] j with
      | [attributes, some selector, body] =>
        return .selection loc (← list? attribute? attributes) (← selector? depth selector)
          (← list? (blockStatement? depth) body)
      | _ => none
    | "conditional" =>
      match ← parts? ["condition", "body", "else_ifs", "else_body"] j with
      | [some condition, body, elseIfs, otherwise] =>
        return .conditional loc (← expr? depth condition)
          (← list? (blockStatement? depth) body) (← list? (blockElseIf? depth) elseIfs)
          (← optional? (fun j => do (← items? j).mapM (blockStatement? depth)) otherwise)
      | _ => none
    | "for" =>
      match ← parts? ["variable", "from", "to", "range", "body"] j with
      | [some name, some first, some last, some range, body] =>
        return .forRange loc (← name.text?) (← expr? depth first) (← expr? depth last)
          (← choice? rangeNames range) (← list? (blockStatement? depth) body)
      | _ => none
    | "each" =>
      match ← parts? ["key", "value", "iterable", "body"] j with
      | [key, some value, some iterable, body] =>
        return .forEach loc (← optional? text? key) (← value.text?) (← expr? depth iterable)
          (← list? (blockStatement? depth) body)
      | _ => none
    | "while" =>
      match ← parts? ["condition", "body"] j with
      | [some condition, body] =>
        return .whileTrue loc (← expr? depth condition) (← list? (blockStatement? depth) body)
      | _ => none
    | _ => none

/-- A further branch in a selection or mixin. -/
def blockElseIf? : (depth : Nat) → Json → Option BlockElseIf
  | 0, _ => none
  | depth + 1, j => do
    match ← record? ["coordinate", "condition", "body"] j with
    | [loc, some condition, body] =>
      return .mk (← loc? loc) (← expr? depth condition) (← list? (blockStatement? depth) body)
    | _ => none

end

mutual

/-- A statement at the top. -/
def topStatement? : (depth : Nat) → Json → Option TopStatement
  | 0, _ => none
  | depth + 1, j => do
    let (loc, rule) ← node? topRules j
    match rule with
    | "import" => return .importLibrary loc (← textPart? "library" j)
    | "variable_declaration" =>
      match ← parts? ["variable", "value"] j with
      | [some name, some value] => return .declare loc (← name.text?) (← expr? depth value)
      | _ => none
    | "stage_definition" => return .stage loc (← textPart? "name" j) (← textPart? "priority" j)
    | "selection_block" =>
      match ← parts? ["attributes", "selector", "body"] j with
      | [attributes, some selector, body] =>
        return .selection loc (← list? attribute? attributes) (← selector? depth selector)
          (← list? (blockStatement? depth) body)
      | _ => none
    | "function_definition" =>
      match ← parts? ["name", "parameters", "body"] j with
      | [some name, params, body] =>
        return .function loc (← name.text?) (← list? (param? depth) params)
          (← list? (functionStatement? depth) body)
      | _ => none
    | "mixin_definition" =>
      match ← parts? ["name", "parameters", "body"] j with
      | [some name, params, body] =>
        return .mixin loc (← name.text?) (← list? (param? depth) params)
          (← list? (blockStatement? depth) body)
      | _ => none
    | "conditional" =>
      match ← parts? ["condition", "body", "else_ifs", "else_body"] j with
      | [some condition, body, elseIfs, otherwise] =>
        return .conditional loc (← expr? depth condition)
          (← list? (topStatement? depth) body) (← list? (topElseIf? depth) elseIfs)
          (← optional? (fun j => do (← items? j).mapM (topStatement? depth)) otherwise)
      | _ => none
    | _ => none

/-- A further branch at the top. -/
def topElseIf? : (depth : Nat) → Json → Option TopElseIf
  | 0, _ => none
  | depth + 1, j => do
    match ← record? ["coordinate", "condition", "body"] j with
    | [loc, some condition, body] =>
      return .mk (← loc? loc) (← expr? depth condition) (← list? (topStatement? depth) body)
    | _ => none

end

/-- The draft of a JSON value. Both parts of the document may be left out. -/
def ofJson? (j : Json) : Option Draft := do
  match ← record? ["coordinate", "statements"] j with
  | [loc, statements] =>
    guard (statements.all (Json.readable (Json.maxDepth - 1)))
    return ⟨← loc? loc, ← list? (topStatement? Json.maxDepth) statements⟩
  | _ => none

/-- The draft of a JSON text. -/
def parse? (text : String) : Option Draft := do
  ofJson? (← Json.ofText? text)

end Draft

end Graft
