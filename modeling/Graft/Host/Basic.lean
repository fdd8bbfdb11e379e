import Graft.Host.Description
import Graft.Text.Blank
import Graft.Value.Merge

/-!
The host: a store of elements that form a tree, and the edits on it.

Elements are numbered in the order in which they are made, so the parent of an element has a
smaller number than the element. No edit takes an element out of the store. Deletion takes
it out of its parent's list of children and marks it, and an element that nobody can reach
any more is gone all the same: `Host.alive` says which elements are left, given those that
somebody still holds.

Every edit is an answer and a new store, or an error and no new store. What the edits do to
single elements is stated at the end.
-/

set_option autoImplicit false

namespace Graft

/-- The number of an element. -/
abbrev ElementId := Nat

/-- An element of the tree. -/
structure Element where
  type : String
  name : Option String
  classes : List String
  value : Value
  /-- The element it was made under. -/
  parent : Option ElementId
  children : List ElementId
  modified : Bool
  deleted : Bool
  readOnly : Bool
  deriving Inhabited

/-- The element in words: its type, and its name if it has one. -/
def Element.describe (e : Element) : String :=
  match e.name with
  | some name => e.type ++ "#" ++ name
  | none => e.type

/-- Why the host refuses an edit. -/
inductive HostError where
  | readOnly (element : String)
  | deleted (element : String)
  /-- The element to delete has no parent. -/
  | rootDeletion
  /-- No kind of elements has this tag. -/
  | unknownKind (tag : String)
  | emptyKind
  | duplicateKind (tag : String)
  deriving Repr, DecidableEq

/-- The error in words. -/
def HostError.message : HostError → String
  | readOnly element => "element " ++ element ++ " is read-only"
  | deleted element => "element " ++ element ++ " has been deleted"
  | rootDeletion => "the root element cannot be deleted"
  | unknownKind tag => "unknown element kind '" ++ tag ++ "'"
  | emptyKind => "element kind tag must not be empty"
  | duplicateKind tag => "element kind '" ++ tag ++ "' is already registered"

/-! ## Kinds -/

/-- The kinds of elements that can be added: their tags, with the value that a new element
starts with. -/
abbrev Kinds := Table Value

namespace Kinds

/-- Enters a kind. -/
def register (kinds : Kinds) (tag : String) (initial : Value) : Except HostError Kinds :=
  if Text.isBlankText tag then .error .emptyKind
  else if Table.has kinds tag then .error (.duplicateKind tag)
  else .ok (Table.insert kinds tag initial)

/-- The value that a new element of a kind starts with. -/
def initial (kinds : Kinds) (tag : String) : Except HostError Value :=
  match Table.get? kinds tag with
  | some v => .ok v
  | none => .error (.unknownKind tag)

end Kinds

/-! ## The store -/

/-- The elements, and the kinds that can be added to them. -/
structure Host where
  elements : Array Element
  kinds : Kinds
  deriving Inhabited

namespace Host

/-- The element that a tree is built from. -/
def root : ElementId := 0

/-- The store without elements. -/
def empty (kinds : Kinds) : Host := ⟨#[], kinds⟩

/-- The element of a number. -/
def get (h : Host) (id : ElementId) : Element :=
  h.elements.getD id default

/-- The store with one element changed. -/
def update (h : Host) (id : ElementId) (change : Element → Element) : Host :=
  { h with elements := h.elements.modify id change }

/-- The store with one more element. -/
def push (h : Host) (e : Element) : ElementId × Host :=
  (h.elements.size, { h with elements := h.elements.push e })

mutual

/-- Puts a described tree into the store, the root first and its subtrees in order. -/
def load (h : Host) (parent : Option ElementId) : Description → ElementId × Host
  | .mk type name classes value children readOnly =>
    let (id, h) := h.push
      { type, name, classes, value := Value.ofJson value, parent, children := [],
        modified := false, deleted := false, readOnly }
    let (ids, h) := loadAll h id children
    (id, h.update id fun e => { e with children := ids })

/-- Puts described trees under an element. -/
def loadAll (h : Host) (parent : ElementId) : List Description → List ElementId × Host
  | [] => ([], h)
  | d :: rest =>
    let (id, h) := load h (some parent) d
    let (ids, h) := loadAll h parent rest
    (id :: ids, h)

end

/-- The host of a described tree; its root is `Host.root`. -/
def ofDescription (kinds : Kinds) (d : Description) : Host :=
  ((empty kinds).load none d).2

/-! ## What is left -/

/-- Whether an element is left, looking at `fuel` elements upward at most. -/
def aliveWithin (h : Host) (held : List ElementId) : (fuel : Nat) → ElementId → Bool
  | 0, id => held.contains id
  | fuel + 1, id =>
    held.contains id ||
      match (h.get id).parent with
      | some p => !(h.get id).deleted && aliveWithin h held fuel p
      | none => false

/-- Whether an element is left: somebody holds it, or it is in the list of children of an
element that is left. Parents have smaller numbers, so looking up ends in time. -/
def alive (h : Host) (held : List ElementId) (id : ElementId) : Bool :=
  h.aliveWithin held id id

/-- The parent of an element, while it is left. -/
def parent? (h : Host) (held : List ElementId) (id : ElementId) : Option ElementId :=
  (h.get id).parent.filter (h.alive held)

/-! ## Edits -/

/-- Refuses elements that must not be changed; that an element is deleted is said first. An
element is opened for edits if this accepts it, and every edit asks again. -/
def checkEditable (h : Host) (id : ElementId) : Except HostError Unit :=
  let e := h.get id
  if e.deleted then .error (.deleted e.describe)
  else if e.readOnly then .error (.readOnly e.describe)
  else .ok ()

/-- Gives an element a value. -/
def set (h : Host) (id : ElementId) (v : Value) : Except HostError Host := do
  h.checkEditable id
  return h.update id fun e => { e with value := v, modified := true }

/-- Merges a value into that of an element. -/
def merge (h : Host) (id : ElementId) (v : Value) : Except HostError Host := do
  h.checkEditable id
  return h.update id fun e => { e with value := e.value.merge v, modified := true }

/-- Takes an element out of its parent's list of children, for good. -/
def delete (h : Host) (held : List ElementId) (id : ElementId) : Except HostError Host := do
  h.checkEditable id
  match h.parent? held id with
  | some p =>
    let h := h.update p fun e =>
      { e with children := e.children.filter (· != id), modified := true }
    return h.update id fun e => { e with deleted := true, modified := true }
  | none => .error .rootDeletion

/-- Makes a new element of a kind and puts it behind the children of another. -/
def add (h : Host) (id : ElementId) (tag : String) : Except HostError (ElementId × Host) := do
  h.checkEditable id
  let v ← h.kinds.initial tag
  let (child, h) := h.push
    { type := tag, name := none, classes := [], value := v, parent := some id, children := [],
      modified := true, deleted := false, readOnly := false }
  return (child, h.update id fun e =>
    { e with children := e.children ++ [child], modified := true })

/-- Protects an element from edits, or lifts the protection. -/
def setReadOnly (h : Host) (id : ElementId) (on : Bool) : Host :=
  h.update id fun e => { e with readOnly := on }

/-! ## What the edits do to single elements -/

theorem get_update (h : Host) (id other : ElementId) (change : Element → Element)
    (hid : id < h.elements.size) :
    (h.update id change).get other = if id = other then change (h.get other) else h.get other := by
  unfold update get
  by_cases he : id = other
  · subst he
    simp [Array.getD, hid, Array.getElem_modify]
  · by_cases ho : other < h.elements.size
    · simp [Array.getD, ho, Array.getElem_modify, he]
    · simp [Array.getD, ho, he]

@[simp] theorem size_update (h : Host) (id : ElementId) (change : Element → Element) :
    (h.update id change).elements.size = h.elements.size := by
  simp [update]

@[simp] theorem kinds_update (h : Host) (id : ElementId) (change : Element → Element) :
    (h.update id change).kinds = h.kinds := rfl

theorem get_push (h : Host) (e : Element) (other : ElementId) :
    (h.push e).2.get other = if other = h.elements.size then e else h.get other := by
  unfold push get
  by_cases ho : other = h.elements.size
  · subst ho
    simp [Array.getD]
  · by_cases hl : other < h.elements.size
    · have hn : other < h.elements.size + 1 := Nat.lt_succ_of_lt hl
      simp [Array.getD, hl, hn, ho, Array.getElem_push]
    · have hn : ¬ other < h.elements.size + 1 := fun hlt =>
        (Nat.lt_succ_iff_lt_or_eq.1 hlt).elim hl ho
      simp [Array.getD, hl, hn, ho]

end Host

end Graft
