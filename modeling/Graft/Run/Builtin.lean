import Graft.Pattern.Marked
import Graft.Pattern.Reader
import Graft.Run.Argument
import Graft.Text.Casing
import Graft.Text.Search
import Graft.Value.Literal

/-!
Builtins: the functions and methods that are there without being defined.

Methods that take closures are run by the evaluation of expressions; all others are
functions on values. The number of arguments is looked at before their kinds, and the
kinds of arguments mostly after that of the receiver.
-/

set_option autoImplicit false

namespace Graft

/-- The arguments of a builtin, which takes them by position only. -/
structure Inputs where
  values : List Value
  closures : List Closure

namespace Inputs

/-- Sorts the arguments of a builtin; an error comes with the place of its argument. -/
def ofArguments (callee : String) : List Argument → Except (Coordinate × Cause) Inputs
  | [] => .ok ⟨[], []⟩
  | arg :: rest =>
    if arg.name.isSome then .error (arg.loc, .namedRejected callee)
    else do
      let inputs ← ofArguments callee rest
      match arg.actual with
      | .value v => return { inputs with values := v :: inputs.values }
      | .closure c => return { inputs with closures := c :: inputs.closures }

/-- The values alone, if there are no closures and the number of values is admitted. -/
def expect (callee : String) (least most : Nat) (inputs : Inputs) : Except Cause (List Value) :=
  let count := inputs.values.length
  if !inputs.closures.isEmpty then .error (.closureRejected callee)
  else if count < least || most < count then .error (.argumentCount callee least most count)
  else .ok inputs.values

/-- The only argument, which has to be a closure. -/
def onlyClosure (method : String) (inputs : Inputs) : Except Cause Closure :=
  match inputs.values, inputs.closures with
  | [], [c] => .ok c
  | _, _ => .error (.notOneClosure method)

end Inputs

/-! ## Functions -/

/-- The builtin functions. -/
inductive Builtin where
  /-- The value of the selected element. -/
  | value
  | elementName
  | elementType
  | classes
  /-- The identity. -/
  | debug
  | round
  | toText
  | typeName
  deriving Repr, DecidableEq

namespace Builtin

/-- The name by which it is called. -/
def name : Builtin → String
  | value => "value"
  | elementName => "element_name"
  | elementType => "element_type"
  | classes => "classes"
  | debug => "debug"
  | round => "round"
  | toText => "to_string"
  | typeName => "type_of"

/-- All functions. -/
def every : List Builtin :=
  [value, elementName, elementType, classes, debug, round, toText, typeName]

/-- The function of a name. -/
def named? (s : String) : Option Builtin :=
  every.find? fun x => x.name == s

/-- The numbers of arguments a function takes. -/
def arity : Builtin → Nat × Nat
  | value => (0, 0)
  | elementName => (0, 0)
  | elementType => (0, 0)
  | classes => (0, 0)
  | debug => (1, 1)
  | round => (1, 2)
  | toText => (1, 1)
  | typeName => (1, 1)

/-- What a function about the selected element says. -/
def aboutElement? (e : Element) : Builtin → Option Value
  | value => some e.value
  | elementName => some (match e.name with
    | some name => .string name
    | none => .null)
  | elementType => some (.string e.type)
  | classes => some (.list (e.classes.map .string))
  | _ => none

/-- The number of decimal places that the second argument of `round` asks for. -/
def places : Option Value → Except Cause Nat
  | none => .ok 0
  | some (.int n) =>
    if 0 ≤ n.toInt && n.toInt < Numeral.shortWordBound then .ok n.toInt.toNat
    else .error (.placesNegative n)
  | some v => .error (.placesNotInteger v.typeName)

/-- A number rounded to decimal places. -/
def roundTo (v : Value) (places : Nat) : Except Cause Value :=
  match v with
  | .int n => .ok (.int n)
  | .float x => .ok (.float (Value.roundFloat x places))
  | v => .error (.roundNotNumber v.typeName)

/-- A value as text: texts as they are, all else as literals. -/
def textOf : Value → String
  | .string s => s
  | v => v.literal

/-- What a function says about its arguments, of which there are as many as it takes. -/
def ofValues : Builtin → List Value → Except Cause Value
  | debug, v :: _ => .ok v
  | round, v :: rest => do roundTo v (← places rest.head?)
  | toText, v :: _ => .ok (.string (textOf v))
  | typeName, v :: _ => .ok (.string v.typeName)
  | _, _ => .ok .null

end Builtin

/-! ## Methods -/

/-- The methods that take a closure. -/
inductive ClosureMethod where
  | map
  | filter
  | any
  | all
  deriving Repr, DecidableEq

namespace ClosureMethod

/-- The name by which it is called. -/
def name : ClosureMethod → String
  | map => "map"
  | filter => "filter"
  | any => "any"
  | all => "all"

/-- All methods with closures. -/
def every : List ClosureMethod :=
  [map, filter, any, all]

/-- The method of a name. -/
def named? (s : String) : Option ClosureMethod :=
  every.find? fun x => x.name == s

/-- The items that the method goes through. -/
def items (m : ClosureMethod) : Value → Except Cause (List Value)
  | .list items => .ok items
  | v => .error (.wrongReceiver m.name "list" v.typeName)

end ClosureMethod

/-- The methods that take values only. -/
inductive Method where
  | length
  | keys
  | values
  | contains
  | startsWith
  | endsWith
  | upper
  | lower
  | trim
  | split
  /-- Whether a pattern occurs in a text. -/
  | matchesPattern
  | first
  | last
  | reverse
  | sum
  | min
  | max
  | unique
  | flatten
  | append
  | lookup
  deriving Repr, DecidableEq

namespace Method

/-- The name by which it is called. -/
def name : Method → String
  | length => "length"
  | keys => "keys"
  | values => "values"
  | contains => "contains"
  | startsWith => "starts_with"
  | endsWith => "ends_with"
  | upper => "upper"
  | lower => "lower"
  | trim => "trim"
  | split => "split"
  | matchesPattern => "matches"
  | first => "first"
  | last => "last"
  | reverse => "reverse"
  | sum => "sum"
  | min => "min"
  | max => "max"
  | unique => "unique"
  | flatten => "flatten"
  | append => "append"
  | lookup => "get"

/-- All methods with values. -/
def every : List Method :=
  [length, keys, values, contains, startsWith, endsWith, upper, lower, trim, split,
    matchesPattern, first, last, reverse, sum, min, max, unique, flatten, append, lookup]

/-- The method of a name. -/
def named? (s : String) : Option Method :=
  every.find? fun x => x.name == s

/-- The numbers of arguments a method takes. -/
def arity : Method → Nat × Nat
  | contains => (1, 1)
  | startsWith => (1, 1)
  | endsWith => (1, 1)
  | split => (1, 1)
  | matchesPattern => (1, 1)
  | append => (1, 1)
  | lookup => (1, 2)
  | _ => (0, 0)

/-- The sum of numbers, from the left. -/
def sumFrom : Value → List Value → Except Cause Value
  | total, [] => .ok total
  | total, v :: rest =>
    if v.toFloat?.isNone then .error (.sumNotNumber v.typeName)
    else match Value.binary .add total v with
      | .ok total => sumFrom total rest
      | .error e => .error (.operator e)

/-- The first item from the left that no later one beats, where an item beats another if its
order to it is `beats`. -/
def extremeFrom (beats : Ordering) : Value → List Value → Except Cause Value
  | best, [] => .ok best
  | best, v :: rest =>
    match Value.order .lessThan v best with
    | .ok o => extremeFrom beats (if o = beats then v else best) rest
    | .error e => .error (.operator e)

/-- The least or the greatest item; nothing of an empty list. -/
def extreme (beats : Ordering) : List Value → Except Cause Value
  | [] => .ok .null
  | v :: rest => extremeFrom beats v rest

/-- The items that are not the same as one in `kept` or an earlier one, behind `kept`. -/
def uniqueOnto (kept : List Value) : List Value → List Value
  | [] => kept
  | v :: rest =>
    if kept.any fun w => w.same v then uniqueOnto kept rest else uniqueOnto (kept ++ [v]) rest

/-- The list without repetitions. -/
def uniqueItems (items : List Value) : List Value :=
  uniqueOnto [] items

/-- The list with the items of the lists in it in their place, one level deep. -/
def flattenItems (items : List Value) : List Value :=
  items.flatMap fun
    | .list inner => inner
    | v => [v]

/-- The entry or item that a value leads to, if it leads anywhere. -/
def find? (receiver key : Value) : Except Cause (Option Value) :=
  match receiver, key with
  | .object entries, .string k => .ok (Table.get? entries k)
  | .list items, .int n => .ok (if n.toInt < 0 then none else items[n.toInt.toNat]?)
  | receiver, key => .error (.wrongLookup key.typeName receiver.typeName)

/-- The text that is the first argument. -/
def textArgument (m : Method) (args : List Value) : Except Cause String :=
  match args with
  | .string s :: _ => .ok s
  | v :: _ => .error (.argumentNotText m.name 1 v.typeName)
  | [] => .ok ""

/-- A method of a receiver with as many arguments as it takes. -/
def apply (m : Method) (receiver : Value) (args : List Value) : Except Cause Value :=
  let wrong := fun (expected : String) =>
    (.error (.wrongReceiver m.name expected receiver.typeName) : Except Cause Value)
  match m with
  | length =>
    match receiver with
    | .list items => .ok (.int (Int64.ofNat items.length))
    | .string s => .ok (.int (Int64.ofNat s.length))
    | .object entries => .ok (.int (Int64.ofNat entries.length))
    | _ => wrong "list, string or object"
  | keys =>
    match receiver with
    | .object entries => .ok (.list (entries.map fun (k, _) => .string k))
    | _ => wrong "object"
  | values =>
    match receiver with
    | .object entries => .ok (.list (entries.map Prod.snd))
    | _ => wrong "object"
  | contains =>
    match receiver with
    | .list items => .ok (.bool (items.any fun v => Value.equals v (args.headD .null)))
    | .string s => do return .bool (Text.contains s (← textArgument m args))
    | .object entries => do return .bool (Table.has entries (← textArgument m args))
    | _ => wrong "list, string or object"
  | startsWith =>
    match receiver with
    | .string s => do return .bool (Text.startsWith s (← textArgument m args))
    | _ => wrong "string"
  | endsWith =>
    match receiver with
    | .string s => do return .bool (Text.endsWith s (← textArgument m args))
    | _ => wrong "string"
  | upper =>
    match receiver with
    | .string s => .ok (.string (Text.upper s))
    | _ => wrong "string"
  | lower =>
    match receiver with
    | .string s => .ok (.string (Text.lower s))
    | _ => wrong "string"
  | trim =>
    match receiver with
    | .string s => .ok (.string (Text.trim s))
    | _ => wrong "string"
  | split =>
    match receiver with
    | .string s => do return .list ((Text.split s (← textArgument m args)).map .string)
    | _ => wrong "string"
  | matchesPattern => do
    let p ← textArgument m args
    match Pattern.ofText? p, receiver with
    | none, _ => .error .invalidPattern
    | some p, .string s => return .bool (p.occursIn s)
    | some _, _ => wrong "string"
  | first =>
    match receiver with
    | .list items => .ok (items.head?.getD .null)
    | _ => wrong "list"
  | last =>
    match receiver with
    | .list items => .ok (items.getLast?.getD .null)
    | _ => wrong "list"
  | reverse =>
    match receiver with
    | .list items => .ok (.list items.reverse)
    | .string s => .ok (.string (String.ofList s.toList.reverse))
    | _ => wrong "list or string"
  | sum =>
    match receiver with
    | .list items => sumFrom (.int 0) items
    | _ => wrong "list"
  | min =>
    match receiver with
    | .list items => extreme .lt items
    | _ => wrong "list"
  | max =>
    match receiver with
    | .list items => extreme .gt items
    | _ => wrong "list"
  | unique =>
    match receiver with
    | .list items => .ok (.list (uniqueItems items))
    | _ => wrong "list"
  | flatten =>
    match receiver with
    | .list items => .ok (.list (flattenItems items))
    | _ => wrong "list"
  | append =>
    match receiver with
    | .list items => .ok (.list (items ++ args))
    | _ => wrong "list"
  | lookup => do
    return (← find? receiver (args.headD .null)).getD (args[1]?.getD .null)

/-- A method of a receiver. -/
def call (m : Method) (receiver : Value) (inputs : Inputs) : Except Cause Value := do
  m.apply receiver (← inputs.expect m.name m.arity.1 m.arity.2)

end Method

end Graft
