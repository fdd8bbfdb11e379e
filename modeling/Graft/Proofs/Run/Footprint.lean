import Graft.Proofs.Host.Footprint
import Graft.Proofs.Host.InPlace
import Graft.Proofs.Run.History

/-!
Operations change what they go to.

A program may hold any number of elements at any time, and what it holds it may still edit after
other edits, also those that delete. Whatever has happened before, an operation that is refused
changes nothing, also on a host that it works on in place, and one that is accepted changes the
element that it goes to, the parent of this element if it is a deletion, and nothing else.
-/

set_option autoImplicit false

namespace Graft

/-- A host refuses an operation, with this error. -/
inductive Operation.Refused (h : Host) : Operation → HostError → Prop
  | openElement {id : ElementId} {e : HostError} :
    h.checkEditable id = .error e → Refused h (.openElement id) e
  | set {id : ElementId} {v : Value} {e : HostError} :
    h.set id v = .error e → Refused h (.set id v) e
  | merge {id : ElementId} {v : Value} {e : HostError} :
    h.merge id v = .error e → Refused h (.merge id v) e
  | delete {held : List ElementId} {id : ElementId} {e : HostError} :
    h.delete held id = .error e → Refused h (.delete held id) e
  | add {id : ElementId} {tag : String} {e : HostError} :
    h.add id tag = .error e → Refused h (.add id tag) e

/-- What is refused is not performed. -/
theorem Operation.Refused.perform {h : Host} {op : Operation} {e : HostError}
    (hrefused : op.Refused h e) : op.perform h = h := by
  cases hrefused with
  | openElement _ => rfl
  | set hr | merge hr | delete hr | add hr =>
    simp only [Operation.perform, hr]
    rfl

/-! ## In place -/

namespace Operation

/-- An operation on a host that stays. An execution keeps what it has edited, however it ends, and
is refused by no element. -/
def inPlace : Operation → Editing Unit
  | openElement id => Editing.requireEditable id
  | set id v => Editing.changeValue id fun _ => v
  | merge id v => Editing.changeValue id (·.merge v)
  | delete held id => Editing.deleteElement held id
  | add id tag => discard (Editing.addElement id tag)
  | setReadOnly id on => Editing.assign id fun e => { e with readOnly := on }
  | execute p held patch => modify fun h => (patch.executeHolding p held h).2

/-- The host that an operation makes, or the error that refuses it. -/
def outcome (h : Host) : Operation → Except HostError Host
  | openElement id => (h.checkEditable id).map fun _ => h
  | set id v => h.set id v
  | merge id v => h.merge id v
  | delete held id => h.delete held id
  | add id tag => (h.add id tag).map Prod.snd
  | setReadOnly id on => .ok (h.setReadOnly id on)
  | execute p held patch => .ok (patch.executeHolding p held h).2

variable {h h' : Host} {op : Operation} {e : HostError}

/-- An operation is refused if it has an error instead of a host. -/
theorem refused_iff : op.Refused h e ↔ op.outcome h = .error e := by
  constructor
  · intro hrefused
    cases hrefused with
    | openElement hr | add hr =>
      rw [outcome, hr]
      rfl
    | set hr | merge hr | delete hr => exact hr
  · intro hr
    cases op with
    | openElement id =>
      cases hcheck : h.checkEditable id with
      | ok _ =>
        rw [outcome, hcheck] at hr
        cases hr
      | error e' =>
        rw [outcome, hcheck] at hr
        cases hr
        exact .openElement hcheck
    | set id v => exact .set hr
    | merge id v => exact .merge hr
    | delete held id => exact .delete hr
    | add id tag =>
      cases hadd : h.add id tag with
      | ok added =>
        rw [outcome, hadd] at hr
        cases hr
      | error e' =>
        rw [outcome, hadd] at hr
        cases hr
        exact .add hadd
    | setReadOnly | execute => cases hr

theorem perform_eq (op : Operation) (h : Host) :
    op.perform h = (op.outcome h).toOption.getD h := by
  cases op with
  | openElement id =>
    rw [outcome]
    cases h.checkEditable id with
    | ok _ => rfl
    | error e => rfl
  | _ => rfl

/-- An operation in place looks before it writes, so it ends with the host that it makes, or with
its error and the host as it was. -/
theorem inPlace_eq (op : Operation) (h : Host) :
    op.inPlace h = settleUnit h (op.outcome h) := by
  cases op with
  | openElement id =>
    rw [inPlace, Editing.requireEditable_eq, outcome]
    cases h.checkEditable id with
    | ok _ => rfl
    | error e => rfl
  | set id v => exact Editing.setValue_eq h id v
  | merge id v => exact Editing.mergeValue_eq h id v
  | delete held id => exact Editing.deleteElement_eq h held id
  | add id tag =>
    show EStateM.map _ (Editing.addElement id tag) h = _
    rw [EStateM.map, Editing.addElement_eq, outcome]
    cases h.add id tag with
    | ok added => rfl
    | error e => rfl
  | setReadOnly id on => rfl
  | execute p held patch => rfl

/-- In place, an operation ends in the error that refuses it, and the host is as it was. -/
theorem inPlace_eq_error_iff : op.inPlace h = .error e h' ↔ op.Refused h e ∧ h' = h := by
  rw [inPlace_eq, settleUnit_eq_error_iff, refused_iff]

/-- Otherwise it ends, with the host behind the operation. -/
theorem inPlace_eq_ok_iff :
    op.inPlace h = .ok () h' ↔ (¬ ∃ e, op.Refused h e) ∧ h' = op.perform h := by
  simp only [inPlace_eq, settleUnit_eq_ok_iff, perform_eq, refused_iff]
  cases op.outcome h with
  | ok made =>
    constructor
    · intro hmade
      cases hmade
      exact ⟨nofun, rfl⟩
    · rintro ⟨_, rfl⟩
      rfl
  | error e => exact iff_of_false nofun fun hnone => hnone.1 ⟨e, rfl⟩

end Operation

/-- **Operations change only what they name.** Whatever has happened to a described tree, and
whatever elements are held: an operation that is refused changes nothing. In place it ends in the
error that refuses it, with the host as it was, and otherwise with the host that the operation
makes: none writes before it is refused. A value that is set, and one that is merged, replaces the
value of the element and marks it. A deletion takes the element out of the list of its parent, which
it marks, and marks the element as modified and as deleted; what is below the element stays as it
is. An addition makes one element, puts it behind the children of another and marks that one. All
other elements, and the kinds, are the same. -/
theorem Host.History.footprint {kinds : Kinds} {d : Description} {h : Host}
    (hh : Host.History (.ofDescription kinds d) h) {id : ElementId}
    (hid : id < h.elements.size) :
    (∀ op e, Operation.Refused h op e → op.perform h = h) ∧
    (∀ op e h', op.inPlace h = .error e h' ↔ Operation.Refused h op e ∧ h' = h) ∧
    (∀ op h', op.inPlace h = .ok () h' ↔
      (¬ ∃ e, Operation.Refused h op e) ∧ h' = op.perform h) ∧
    (∀ v h', h.set id v = .ok h' →
      h'.get id = { h.get id with value := v, modified := true } ∧
      h'.elements.size = h.elements.size ∧ Host.SameBut [id] h h') ∧
    (∀ v h', h.merge id v = .ok h' →
      h'.get id = { h.get id with value := (h.get id).value.merge v, modified := true } ∧
      h'.elements.size = h.elements.size ∧ Host.SameBut [id] h h') ∧
    (∀ held h', h.delete held id = .ok h' →
      ∃ p before behind, h.parent? held id = some p ∧ p ≠ id ∧
        (h.get p).children = before ++ id :: behind ∧
        h'.get p = { h.get p with children := before ++ behind, modified := true } ∧
        h'.get id = { h.get id with deleted := true, modified := true } ∧
        (h'.snapshot id).children = (h.snapshot id).children ∧
        h'.elements.size = h.elements.size ∧ Host.SameBut [p, id] h h') ∧
    ∀ tag child h', h.add id tag = .ok (child, h') →
      child = h.elements.size ∧ h'.elements.size = h.elements.size + 1 ∧
      (∃ v, Table.get? h.kinds tag = some v ∧ h'.get child = Host.seedling id tag v) ∧
      h'.get id =
        { h.get id with children := (h.get id).children ++ [child], modified := true } ∧
      Host.SameBut [id, child] h h' := by
  have htree := hh.consistent
  refine ⟨fun op e hrefused => hrefused.perform, fun op e h' => Operation.inPlace_eq_error_iff,
    fun op h' => Operation.inPlace_eq_ok_iff, fun v h' hset => ?_, fun v h' hmerge => ?_,
    fun held h' hdelete => ?_, fun tag child h' hadd => ?_⟩
  · exact Host.footprint_set hid hset
  · exact Host.footprint_merge hid hmerge
  · exact htree.footprint_delete hid hdelete
  · exact Host.footprint_add hid hadd

/-- In the chain `doc > a > b`, whose last element has got a value, the deletion of `a` changes
`doc` and `a`, and `b` stays below `a` with its value. Nothing is set in `a` any more, in place
either, but what is held below it still gets children. -/
theorem Host.History.footprint_below_deleted :
    let h := Operation.perform (.ofDescription [("k", .int 7)] .chain) (.set 2 (.bool true))
    let behind := Operation.perform h (.delete [0, 1, 2] 1)
    behind.get 0 = { h.get 0 with children := [], modified := true } ∧
      behind.get 1 = { h.get 1 with deleted := true, modified := true } ∧
      behind.get 2 = h.get 2 ∧ (behind.snapshot 1).children = (h.snapshot 1).children ∧
      Operation.perform behind (.set 1 .null) = behind ∧
      (∃ e, (Operation.set 1 .null).inPlace behind = .error e behind) ∧
      ∃ later, behind.add 2 "k" = .ok (3, later) ∧ later.get 3 = Host.seedling 2 "k" (.int 7) ∧
        later.get 1 = behind.get 1 := by
  intro h behind
  have hh : Host.History (.ofDescription [("k", .int 7)] .chain) h :=
    Host.History.start.perform (.set 2 (.bool true)) (by decide)
  have hbehind : Host.History (.ofDescription [("k", .int 7)] .chain) behind :=
    hh.perform (.delete [0, 1, 2] 1) (by decide)
  obtain ⟨_, _, _, _, _, hdelete, _⟩ := @Host.History.footprint _ _ _ hh 1 (by decide)
  obtain ⟨hrefused, hinPlace, _, _, _, _, hadd⟩ :=
    @Host.History.footprint _ _ _ hbehind 2 (by decide)
  obtain ⟨p, before, rest, hp, _, hsplit, hparent, hself, hbelow, _, hbut⟩ :=
    hdelete [0, 1, 2] behind rfl
  cases hp
  obtain ⟨later, hlater⟩ : ∃ later, behind.add 2 "k" = .ok (3, later) := ⟨_, rfl⟩
  obtain ⟨_, _, ⟨v, hkind, hnew⟩, _, hlaterBut⟩ := hadd "k" 3 later hlater
  cases hkind
  refine ⟨?_, hself, hbut.get 2 (by decide), hbelow, hrefused _ _ (.set rfl),
    ⟨_, (hinPlace _ _ _).mpr ⟨.set rfl, rfl⟩⟩, later, hlater, hnew, hlaterBut.get 1 (by decide)⟩
  rfl

end Graft
