import Graft.Host.Snapshot
import Graft.Selector.Basic

/-!
Which elements a selector matches, and which elements it selects.

Matching looks at an element and at those above it, of which the nearest comes first. Names
of rulesets are looked up while matching, a limited number of levels deep. Candidates of a
selection are the elements strictly below its scope, parents before their children; the
scope and everything passed on the way down count as above. A selector whose last segment
is an addition selects elements that it makes.
-/

set_option autoImplicit false

namespace Graft

/-- Why a selection fails. -/
inductive SelectorError where
  | unknownRuleset (name : String)
  /-- Rulesets refer to each other too deeply. -/
  | rulesetDepth (name : String) (limit : Nat)
  /-- An addition that is not the last segment. -/
  | misplacedAddition (type : String)
  | invalid (message : String)
  | host (error : HostError)
  deriving Repr, DecidableEq

/-- The error in words. -/
def SelectorError.message : SelectorError → String
  | unknownRuleset name => "unknown ruleset ':" ++ name ++ "'"
  | rulesetDepth name limit =>
    "ruleset ':" ++ name ++ "' expands deeper than " ++ Numeral.decimal limit ++ " levels"
  | misplacedAddition type =>
    "element addition '+" ++ type ++ "' must be the last segment of a selector"
  | invalid text => "invalid selector: " ++ text
  | host error => error.message

namespace Selector

/-- A test of an element and the elements above it, the nearest first. -/
abbrev Test := (above : List Element) → Element → Except SelectorError Bool

/-- Whether a test holds of one of these elements, each with those above it; the outermost
one is tested first. -/
def anyOf (test : Test) : List Element → Except SelectorError Bool
  | [] => .ok false
  | e :: above => do
    if ← anyOf test above then return true
    test above e

/-- Whether a selector matches, where `resolve` tests the rulesets. -/
def matchesWith (resolve : String → Test) : Selector → Test
  | .ofType _ type, _, e => .ok (e.type == type)
  | .withName _ name, _, e => .ok (e.name == some name)
  | .withClass _ tag, _, e => .ok (e.classes.contains tag)
  | .ruleset _ name, above, e => resolve name above e
  | .wildcard _, _, _ => .ok true
  | .withoutClass _ tag, _, e => .ok !(e.classes.contains tag)
  | .withoutName _ name, _, e => .ok (e.name != some name)
  | .child _ outer inner, above, e => do
    if ← matchesWith resolve inner above e then anyOf (matchesWith resolve outer) above
    else return false
  | .intersection _ left right, above, e => do
    if ← matchesWith resolve left above e then matchesWith resolve right above e
    else return false
  | .combination _ left right, above, e => do
    if ← matchesWith resolve left above e then return true
    else matchesWith resolve right above e
  | .addition _ _, _, _ => .ok false
  | .invalid _ text, _, _ => .error (.invalid text)

/-- What a name of a ruleset tests, with so many levels of rulesets left below it. -/
def resolveWithin (rulesets : Table Selector) (limit : Nat) : (levels : Nat) → String → Test
  | 0, name, _, _ => .error (.rulesetDepth name limit)
  | levels + 1, name, above, e =>
    match Table.get? rulesets name with
    | some s => matchesWith (resolveWithin rulesets limit levels) s above e
    | none => .error (.unknownRuleset name)

/-- Whether a selector matches an element below others. -/
def isMatch (rulesets : Table Selector) (limit : Nat) (s : Selector) : Test :=
  matchesWith (resolveWithin rulesets limit limit) s

/-! ## Candidates -/

mutual

/-- The elements of a snapshot that a test holds of, under others. -/
def filterTree (test : Test) (above : List Element) :
    Snapshot → Except SelectorError (List ElementId)
  | .node id e children => do
    let hit ← test above e
    let below ← filterTrees test (e :: above) children
    return if hit then id :: below else below

/-- The elements of several snapshots that a test holds of. -/
def filterTrees (test : Test) (above : List Element) :
    List Snapshot → Except SelectorError (List ElementId)
  | [] => .ok []
  | tree :: rest => do
    let first ← filterTree test above tree
    let others ← filterTrees test above rest
    return first ++ others

end

/-- The elements strictly below the topmost one of a snapshot that a selector matches. -/
def enumerate (rulesets : Table Selector) (limit : Nat) (s : Selector) :
    Snapshot → Except SelectorError (List ElementId)
  | .node _ e children => filterTrees (isMatch rulesets limit s) [e] children

/-! ## Additions -/

/-- Refuses selectors with an addition in them. -/
def checkNoAddition : Selector → Except SelectorError Unit
  | .addition _ type => .error (.misplacedAddition type)
  | .child _ outer inner => do
    checkNoAddition outer
    checkNoAddition inner
  | .intersection _ left right => do
    checkNoAddition left
    checkNoAddition right
  | .combination _ left right => do
    checkNoAddition left
    checkNoAddition right
  | _ => .ok ()

/-- Adds an element to each of these in turn. The elements that were added before one of
them refuses stay. -/
def addToEach (type : String) :
    List ElementId → Host → Except SelectorError (List ElementId) × Host
  | [], h => (.ok [], h)
  | id :: rest, h =>
    match h.add id type with
    | .error e => (.error (.host e), h)
    | .ok (newId, h) =>
      let (added, h) := addToEach type rest h
      (added.map (newId :: ·), h)

/-- The elements that a block runs against. An addition makes a new one in the scope, and
an addition below another selector makes one in each element that this selector matches. -/
def select (rulesets : Table Selector) (limit : Nat) (s : Selector) (scope : ElementId)
    (h : Host) : Except SelectorError (List ElementId) × Host :=
  match s with
  | .addition _ type => addToEach type [scope] h
  | .child _ outer (.addition _ type) =>
    match (do checkNoAddition outer; enumerate rulesets limit outer (h.snapshot scope)) with
    | .ok ids => addToEach type ids h
    | .error e => (.error e, h)
  | s => (do checkNoAddition s; enumerate rulesets limit s (h.snapshot scope), h)

end Selector

end Graft
