import Graft.Json.Reader
import Graft.Json.Writer
import Graft.Value.Json

/-!
Descriptions of element trees, and their JSON form.

A description is what a tree is built from and what it is saved as. In JSON only the type
has to be given. What is empty is left out when a description is written, but the value is
always there.
-/

set_option autoImplicit false

namespace Graft

/-- An element and everything below it, as data. -/
inductive Description where
  | mk (type : String) (name : Option String) (classes : List String) (value : Json)
      (children : List Description) (readOnly : Bool)
  deriving Inhabited

namespace Description

mutual

/-- The types that occur in a tree and have not been seen, in the order of their first
occurrence, behind those that have. -/
def collectTypes (seen : List String) : Description → List String
  | .mk type _ _ _ children _ =>
    collectTypesOf (if seen.contains type then seen else seen ++ [type]) children

/-- The same of a list of trees. -/
def collectTypesOf (seen : List String) : List Description → List String
  | [] => seen
  | d :: rest => collectTypesOf (collectTypes seen d) rest

end

/-- The types that occur in a tree, each once, in the order of their first occurrence. -/
def types (d : Description) : List String :=
  collectTypes [] d

/-! ## JSON -/

mutual

/-- The JSON form of a description. -/
def toJson : Description → Json
  | .mk type name classes value children readOnly =>
    .object <|
      [("type", .string type)] ++
      (match name with
        | some n => [("name", .string n)]
        | none => []) ++
      (if classes.isEmpty then [] else [("classes", .array (classes.map .string))]) ++
      [("value", value)] ++
      (if children.isEmpty then [] else [("children", .array (listToJson children))]) ++
      (if readOnly then [("read_only", .bool true)] else [])

/-- The JSON forms of descriptions. -/
def listToJson : List Description → List Json
  | [] => []
  | d :: rest => toJson d :: listToJson rest

end

/-- The description of a JSON value that nests at most `depth` deep. Unknown parts are
skipped without being looked at; the parts that are read have to be readable throughout. -/
def ofJsonWithin? : (depth : Nat) → Json → Option Description
  | 0, _ => none
  | depth + 1, j => do
    match ← Json.record? ["type", "name", "classes", "value", "children", "read_only"] j with
    | [some type, name, classes, value, children, readOnly] =>
      guard (value.all (Json.readable depth))
      let classes ← Json.default? [] (fun j => do
        guard (0 < depth)
        (← j.items?).mapM Json.text?) classes
      let children ← Json.default? [] (fun j =>
        match depth with
        | 0 => none
        | deeper + 1 => j.items?.bind fun items => items.mapM (ofJsonWithin? deeper)) children
      return .mk (← type.text?) (← Json.optional? Json.text? name) classes (value.getD .null)
        children (← Json.default? false Json.bool? readOnly)
    | _ => none

/-- The description of a JSON text. -/
def parse? (text : String) : Option Description := do
  ofJsonWithin? Json.maxDepth (← Json.ofText? text)

/-- A description on one line. -/
def compact (d : Description) : String :=
  d.toJson.compact

/-- A description with one part a line. -/
def indented (d : Description) : String :=
  d.toJson.indented

end Description

end Graft
