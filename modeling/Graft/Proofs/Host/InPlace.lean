import Graft.Proofs.Host.Operation
import Graft.Proofs.InPlace

/-!
Edits in place.

An edit answers with a new host or with an error. It may as well be carried out on a host that
stays: elements are cells that many hands hold, and an edit looks first, and may refuse, and then
writes into one cell after the other. Nothing takes back what has been written, so the host is
spared by an edit that is refused only because every check comes before the first write.

Each edit in place ends as the edit is said to end: with the host that it makes, or with its error
and the host as it was.
-/

set_option autoImplicit false

namespace Graft

/-- A computation on a host that stays, also where it ends in an error. -/
abbrev Editing (α : Type) : Type := EStateM HostError Host α

namespace Editing

/-! ## Cells -/

/-- Writes into an element. -/
def assign (id : ElementId) (change : Element → Element) : Editing Unit :=
  modify fun h => h.update id change

/-- Makes an element. -/
def create (e : Element) : Editing ElementId :=
  modifyGet fun h => h.push e

/-- Refuses elements that must not be changed. -/
def requireEditable (id : ElementId) : Editing Unit := do
  let e := (← get).get id
  if e.deleted then throw (.deleted e.describe)
  if e.readOnly then throw (.readOnly e.describe)

/-- Finds the parent of an element, while it is left. -/
def requireParent (held : List ElementId) (id : ElementId) : Editing ElementId := do
  match (← get).parent? held id with
  | some p => return p
  | none => throw .rootDeletion

/-- Finds the value that a new element of a kind starts with. -/
def requireKind (tag : String) : Editing Value := do
  ofExcept ((← get).kinds.initial tag)

/-! ## Edits -/

/-- Changes the value of an element: another is set, or one is merged into it. -/
def changeValue (id : ElementId) (change : Value → Value) : Editing Unit := do
  requireEditable id
  assign id fun e => { e with value := change e.value }
  assign id fun e => { e with modified := true }

/-- Takes an element out of its parent's list of children. -/
def deleteElement (held : List ElementId) (id : ElementId) : Editing Unit := do
  requireEditable id
  let p ← requireParent held id
  assign p fun e => { e with children := e.children.filter (· != id) }
  assign p fun e => { e with modified := true }
  assign id fun e => { e with deleted := true }
  assign id fun e => { e with modified := true }

/-- Makes a new element of a kind and puts it behind the children of another. -/
def addElement (id : ElementId) (tag : String) : Editing ElementId := do
  requireEditable id
  let v ← requireKind tag
  let child ← create
    { type := tag, name := none, classes := [], value := v, parent := some id, children := [],
      modified := false, deleted := false, readOnly := false }
  assign child fun e => { e with modified := true }
  assign id fun e => { e with children := e.children ++ [child] }
  assign id fun e => { e with modified := true }
  return child

end Editing

namespace Host

variable (h : Host) {id : ElementId}

/-! ## Writes that follow each other -/

/-- Two writes into an element come to one. -/
theorem update_update (id : ElementId) (first second : Element → Element) :
    (h.update id first).update id second = h.update id fun e => second (first e) := by
  have helements : (h.elements.modify id first).modify id second =
      h.elements.modify id fun e => second (first e) := by
    apply Array.ext
    · simp only [Array.size_modify]
    · intro i _ _
      simp only [Array.getElem_modify]
      split
      · rfl
      · rfl
  simp only [update, helements]

/-- An element that is written into as soon as it has been made is made that way. -/
theorem update_push (e : Element) (change : Element → Element) :
    (h.push e).2.update h.elements.size change = (h.push (change e)).2 := by
  have helements : (h.elements.push e).modify h.elements.size change =
      h.elements.push (change e) := by
    apply Array.ext
    · simp only [Array.size_modify, Array.size_push]
    · intro i hi _
      rw [Array.size_modify, Array.size_push] at hi
      simp only [Array.getElem_modify, Array.getElem_push]
      by_cases hlt : i < h.elements.size
      · rw [if_neg (Nat.ne_of_gt hlt), dif_pos hlt, dif_pos hlt]
      · have hlast : h.elements.size = i := by omega
        rw [dif_neg hlt, dif_neg hlt, if_pos hlast]
  simp only [push, update, helements]

end Host

namespace Editing

variable (h : Host)

/-! ## Checks come first -/

/-- An element that has been deleted is refused as such, also if it is read-only. -/
theorem requireEditable_eq (id : ElementId) :
    requireEditable id h = settle h ((h.checkEditable id).map (·, h)) := by
  show (if (h.get id).deleted = true then _ else _ : Editing Unit) h = _
  simp only [Host.checkEditable]
  cases (h.get id).deleted with
  | true => rfl
  | false =>
    cases (h.get id).readOnly with
    | true => rfl
    | false => rfl

/-- Without a parent that is left, an element is refused as the root would be. -/
theorem requireParent_eq (held : List ElementId) (id : ElementId) :
    requireParent held id h = settle h (match h.parent? held id with
      | some p => .ok (p, h)
      | none => .error .rootDeletion) := by
  show (match h.parent? held id with | some p => _ | none => _ : Editing ElementId) h = _
  cases h.parent? held id with
  | some p => rfl
  | none => rfl

theorem requireKind_eq (tag : String) :
    requireKind tag h = settle h ((h.kinds.initial tag).map (·, h)) := by
  show (ofExcept (h.kinds.initial tag) : Editing Value) h = _
  cases h.kinds.initial tag with
  | ok v => rfl
  | error e => rfl

/-! ## Edits end as they are said to -/

/-- **A refused edit leaves the host as it was**, and an accepted one makes it what the edit is said
to make of it. The value and the mark are written one after the other. -/
theorem changeValue_eq (id : ElementId) (change : Value → Value) :
    changeValue id change h = settleUnit h (h.checkEditable id >>= fun _ =>
      pure (h.update id fun e => { e with value := change e.value, modified := true })) := by
  rw [settleUnit, map_bind]
  refine bind_check h (requireEditable_eq h id) fun _ _ => ?_
  exact congrArg (EStateM.Result.ok ()) (h.update_update id _ _)

theorem setValue_eq (id : ElementId) (v : Value) :
    changeValue id (fun _ => v) h = settleUnit h (h.set id v) :=
  changeValue_eq h id fun _ => v

theorem mergeValue_eq (id : ElementId) (v : Value) :
    changeValue id (·.merge v) h = settleUnit h (h.merge id v) :=
  changeValue_eq h id (·.merge v)

/-- A deletion takes the element from its parent before it marks it. The parent is not asked whether
it may be edited. -/
theorem deleteElement_eq (held : List ElementId) (id : ElementId) :
    deleteElement held id h = settleUnit h (h.delete held id) := by
  rw [Host.delete, settleUnit, map_bind]
  refine bind_check h (requireEditable_eq h id) fun _ _ => ?_
  have hparent := requireParent_eq h held id
  cases hp : h.parent? held id with
  | none =>
    rw [hp] at hparent
    simp only [bind, EStateM.bind, hparent]
    rfl
  | some p =>
    rw [hp] at hparent
    simp only [bind, EStateM.bind, hparent]
    -- Two writes go into the parent and two into the element.
    show EStateM.Result.ok () ((((h.update p _).update p _).update id _).update id _) = _
    rw [Host.update_update, Host.update_update]
    rfl

/-- An addition makes its element before it enters it among the children of the other. -/
theorem addElement_eq (id : ElementId) (tag : String) :
    addElement id tag h = settle h (h.add id tag) := by
  rw [Host.add]
  refine bind_check h (requireEditable_eq h id) fun _ _ => ?_
  refine bind_check h (requireKind_eq h tag) fun v _ => ?_
  -- The mark of the new element might as well have been made with it.
  show EStateM.Result.ok h.elements.size
    ((((h.push _).2.update h.elements.size _).update id _).update id _) = _
  rw [Host.update_push, Host.update_update]
  rfl

end Editing

end Graft
