import Graft.Settings.Basic
import Graft.Value.Basic
import Graft.Number.Numeral

/-!
Paths into values: where a field statement reads and writes.

A path is a list of segments. A key leads to an entry of an object; an index, a type and a
class lead to an item of a list, the latter two to the first item that is an object with
that type or class under the keys of the conventions. All segments but a key at the end
have to lead somewhere for a write, which replaces what is there, or removes it if the
removal marker is written.
-/

set_option autoImplicit false

namespace Graft

/-- One step of a path. -/
inductive Segment where
  | key (name : String)
  | index (position : Nat)
  | ofType (tag : String)
  | ofClass (tag : String)
  deriving Repr, DecidableEq

/-- A segment in words. -/
def Segment.describe : Segment → String
  | key name => "key '" ++ name ++ "'"
  | index position => "item " ++ Numeral.decimal position
  | ofType tag => "item of type '" ++ tag ++ "'"
  | ofClass tag => "item with class '" ++ tag ++ "'"

/-- Why a path cannot be written to. -/
inductive PathError where
  /-- A segment leads nowhere. -/
  | notFound (segment : Segment)
  /-- A segment does not apply to the kind of value it meets. -/
  | mismatch (segment : Segment) (found : String)
  /-- The path itself could not be read from the patch. -/
  | invalidIndexer (message : String)
  deriving Repr, DecidableEq

/-- The error in words. -/
def PathError.message : PathError → String
  | notFound segment => "indexer target not found: " ++ segment.describe
  | mismatch segment found => "cannot address " ++ segment.describe ++ " inside " ++ found
  | invalidIndexer text => "field statement has an invalid indexer: " ++ text

namespace Value

/-- Whether a list item is an object whose type is `tag`. -/
def hasType (conventions : FieldConventions) (tag : String) : Value → Bool
  | object entries =>
    match Table.get? entries conventions.typeKey with
    | some (string s) => s == tag
    | _ => false
  | _ => false

/-- Whether a list item is an object whose class is `tag`, or whose classes contain it. -/
def hasClass (conventions : FieldConventions) (tag : String) : Value → Bool
  | object entries =>
    match Table.get? entries conventions.classKey with
    | some (string s) => s == tag
    | some (list classes) => classes.any fun v => v.toText? == some tag
    | _ => false
  | _ => false

/-- The position of the item that a segment leads to. -/
def itemIndex? (conventions : FieldConventions) (items : List Value) : Segment → Option Nat
  | .key _ => none
  | .index position => if position < items.length then some position else none
  | .ofType tag => items.findIdx? (hasType conventions tag)
  | .ofClass tag => items.findIdx? (hasClass conventions tag)

/-- The value that one segment leads to. -/
def step? (conventions : FieldConventions) (v : Value) (segment : Segment) : Option Value :=
  match v, segment with
  | object entries, .key name => Table.get? entries name
  | list items, segment => (itemIndex? conventions items segment).bind (items[·]?)
  | _, _ => none

/-- The value at the end of a path. -/
def readAt? (conventions : FieldConventions) : Value → List Segment → Option Value
  | v, [] => some v
  | v, segment :: rest =>
    match step? conventions v segment with
    | some child => readAt? conventions child rest
    | none => none

/-- The value with its part under one segment put through `change`, which answers what
shall stand there, or nothing for a removal. A key may be new; `change` is then given
nothing. -/
def alter (conventions : FieldConventions) (v : Value) (segment : Segment)
    (change : Option Value → Except PathError (Option Value)) : Except PathError Value :=
  match v, segment with
  | object entries, .key name => do
    match ← change (Table.get? entries name) with
    | some w => return object (Table.insert entries name w)
    | none => return object (Table.erase entries name)
  | list items, .key name => .error (.mismatch (.key name) (list items).typeName)
  | list items, segment =>
    match itemIndex? conventions items segment with
    | some i => do
      match ← change items[i]? with
      | some w => return list (items.set i w)
      | none => return list (items.eraseIdx i)
    | none => .error (.notFound segment)
  | v, segment => .error (.mismatch segment v.typeName)

/-- Writes a value at the end of a path. The markers inside it are dropped; a bare marker
removes the place instead, except at the empty path, which has no holder to remove it
from. -/
def writeAt (conventions : FieldConventions) (new : Value) :
    Value → List Segment → Except PathError Value
  | _, [] => .ok new.withoutDeletions
  | v, [last] =>
    alter conventions v last fun _ =>
      .ok (if new.isDeletion then none else some new.withoutDeletions)
  | v, segment :: rest =>
    alter conventions v segment fun
      | some child => (writeAt conventions new child rest).map some
      | none => .error (.notFound segment)

end Value

end Graft
