import Graft.Patch.Basic
import Graft.Selector.Match
import Graft.Value.Arithmetic
import Graft.Value.Path

/-!
Failures of a run: what went wrong, and where in the patch.

A cause belongs to one class of trouble. A failure is told in three ways: as the message
alone, as a line for the log, and as a diagnostic; they differ in how they name the class.
-/

set_option autoImplicit false

namespace Graft

/-- What can only be done inside a selection. -/
inductive EditSite where
  | setStatement
  | deleteStatement
  | mergeStatement
  | fieldStatement
  /-- A call of a builtin about the selected element. -/
  | builtin (name : String)
  deriving Repr, DecidableEq

/-- The thing in words. -/
def EditSite.text : EditSite → String
  | setStatement => "@set"
  | deleteStatement => "@delete"
  | mergeStatement => "@merge"
  | fieldStatement => "field assignment"
  | builtin name => name ++ "()"

/-- Why a run stops. -/
inductive Cause where
  /-- A node of the patch that could not be read is reached. -/
  | fault (fault : Fault)
  | namelessFunction
  | unboundVariable (name : String)
  | unboundLocal (name : String)
  | unknownMixin (name : String)
  | unknownLibrary (name : String)
  | unknownFunction (name : String)
  | unknownMethod (name : String)
  | indexOutOfRange (index : Int64) (length : Nat)
  | missingKey (key : String)
  | operator (error : OperatorError)
  | selector (error : SelectorError)
  | path (error : PathError)
  | host (error : HostError)
  /-- Something is done to the selected element where none is selected. -/
  | outsideSelection (site : EditSite)
  | boundNotInteger (which found : String)
  | notIterable (found : String)
  | notBoolean (found : String)
  | notIndexable (target index : String)
  /-- A closure that is no argument. -/
  | strayClosure
  | closureRejected (callee : String)
  | placesNegative (places : Int64)
  | placesNotInteger (found : String)
  | roundNotNumber (found : String)
  | argumentNotText (callee : String) (position : Nat) (found : String)
  | wrongReceiver (method expected found : String)
  | sumNotNumber (found : String)
  | wrongLookup (key receiver : String)
  | invalidPattern
  | positionalAfterNamed
  | tooManyArguments (callee : String) (most : Nat)
  | unknownParameter (callee name : String)
  | givenTwice (name : String)
  | missingArgument (callee name : String)
  | namedRejected (callee : String)
  | argumentCount (callee : String) (least most count : Nat)
  | notOneClosure (method : String)
  | loopLimit (limit : Nat)
  | callLimit (limit : Nat)
  deriving Repr, DecidableEq

namespace Cause

/-- The class of a cause. -/
def trouble : Cause → Trouble
  | fault _ => .malformed
  | namelessFunction => .malformed
  | unboundVariable _ => .resolution
  | unboundLocal _ => .resolution
  | unknownMixin _ => .resolution
  | unknownLibrary _ => .resolution
  | unknownFunction _ => .resolution
  | unknownMethod _ => .resolution
  | indexOutOfRange _ _ => .resolution
  | missingKey _ => .resolution
  | operator .divisionByZero => .divisionByZero
  | operator _ => .type
  | selector (.unknownRuleset _) => .resolution
  | selector (.rulesetDepth _ _) => .resolution
  | selector (.misplacedAddition _) => .type
  | selector (.invalid _) => .malformed
  | selector (.host _) => .hostRejection
  | path (.notFound _) => .resolution
  | path (.mismatch _ _) => .type
  | path (.invalidIndexer _) => .malformed
  | host _ => .hostRejection
  | outsideSelection _ => .type
  | boundNotInteger _ _ => .type
  | notIterable _ => .type
  | notBoolean _ => .type
  | notIndexable _ _ => .type
  | strayClosure => .type
  | closureRejected _ => .type
  | placesNegative _ => .type
  | placesNotInteger _ => .type
  | roundNotNumber _ => .type
  | argumentNotText _ _ _ => .type
  | wrongReceiver _ _ _ => .type
  | sumNotNumber _ => .type
  | wrongLookup _ _ => .type
  | invalidPattern => .type
  | positionalAfterNamed => .arity
  | tooManyArguments _ _ => .arity
  | unknownParameter _ _ => .arity
  | givenTwice _ => .arity
  | missingArgument _ _ => .arity
  | namedRejected _ => .arity
  | argumentCount _ _ _ _ => .arity
  | notOneClosure _ => .arity
  | loopLimit _ => .limit
  | callLimit _ => .limit

/-- A name between backticks. -/
def ticked (name : String) : String :=
  "`" ++ name ++ "`"

/-- The cause in words. Faults of selectors and indexers that were there before the run are
given in the words of the fault. -/
def message : Cause → String
  | fault f => f.message
  | namelessFunction => "function definition without a name"
  | unboundVariable name => "undefined variable " ++ ticked ("$" ++ name)
  | unboundLocal name => "undefined local variable " ++ ticked ("%" ++ name)
  | unknownMixin name => "unknown mixin " ++ ticked name
  | unknownLibrary name => "unknown library \"" ++ name ++ "\""
  | unknownFunction name => "unknown function " ++ ticked name
  | unknownMethod name => "unknown function or method " ++ ticked name
  | indexOutOfRange index length =>
    "index " ++ Numeral.signedDecimal index.toInt ++ " out of range for list of length " ++
      Numeral.decimal length
  | missingKey key => "object has no key \"" ++ key ++ "\""
  | operator e => e.message
  | selector (.invalid text) => text
  | selector e => e.message
  | path (.invalidIndexer text) => text
  | path e => e.message
  | host e => e.message
  | outsideSelection site => site.text ++ " is only allowed inside a selection block"
  | boundNotInteger which found => which ++ " must be an integer, got " ++ found
  | notIterable found => "cannot iterate over " ++ found
  | notBoolean found => "condition must be a boolean, got " ++ found
  | notIndexable target index => "cannot index " ++ target ++ " with " ++ index
  | strayClosure => "closures can only be passed as call arguments"
  | closureRejected callee => ticked callee ++ " does not accept closure arguments"
  | placesNegative places =>
    "round() places must be a non-negative integer, got " ++ Numeral.signedDecimal places.toInt
  | placesNotInteger found => "round() places must be an integer, got " ++ found
  | roundNotNumber found => "round() requires a number, got " ++ found
  | argumentNotText callee position found =>
    ticked callee ++ " argument " ++ Numeral.decimal position ++ " must be a string, got " ++ found
  | wrongReceiver method expected found =>
    "." ++ method ++ "() requires " ++ expected ++ ", got " ++ found
  | sumNotNumber found => ".sum() requires numbers, found " ++ found
  | wrongLookup key receiver => ".get() cannot look up " ++ key ++ " in " ++ receiver
  | invalidPattern => "invalid regex"
  | positionalAfterNamed => "positional argument after named argument"
  | tooManyArguments callee most =>
    ticked callee ++ " takes at most " ++ Numeral.decimal most ++ " argument(s)"
  | unknownParameter callee name => ticked callee ++ " has no argument named " ++ ticked name
  | givenTwice name => "argument " ++ ticked name ++ " given more than once"
  | missingArgument callee name =>
    ticked callee ++ " is missing required argument " ++ ticked name
  | namedRejected callee => ticked callee ++ " does not take named arguments"
  | argumentCount callee least most count =>
    ticked callee ++ " takes " ++
      (if least = most then Numeral.decimal least
        else Numeral.decimal least ++ " to " ++ Numeral.decimal most) ++
      " argument(s), got " ++ Numeral.decimal count
  | notOneClosure method => ticked ("." ++ method ++ "()") ++ " takes exactly one closure argument"
  | loopLimit limit => "loop exceeds " ++ Numeral.decimal limit ++ " iterations"
  | callLimit limit => "call depth exceeds " ++ Numeral.decimal limit

/-- The error of the host, where a cause is one. -/
def hostError? : Cause → Option HostError
  | host e => some e
  | selector (.host e) => some e
  | _ => none

end Cause

/-- A cause at a place. -/
structure Failure where
  loc : Coordinate
  cause : Cause
  deriving Repr, DecidableEq

namespace Failure

/-- The message alone. -/
def message (f : Failure) : String :=
  f.cause.message

/-- The failure as a diagnostic. -/
def diagnostic (f : Failure) : Diagnostic :=
  ⟨f.cause.trouble, f.loc, f.message⟩

/-- The failure on one line. A division by zero needs no message of its own. -/
def text (f : Failure) : String :=
  f.loc.text ++ ": " ++
    match f.cause.trouble with
    | .divisionByZero => Trouble.divisionByZero.text
    | .hostRejection => "host rejected edit: " ++ f.message
    | t => t.text ++ ": " ++ f.message

end Failure

end Graft
