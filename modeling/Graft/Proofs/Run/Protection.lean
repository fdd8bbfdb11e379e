import Graft.Proofs.Host.Protection
import Graft.Proofs.Run.Effect
import Graft.Proofs.Run.History

/-!
Protected elements in the histories of a tree.

As long as an element is protected, no operation that goes to it is accepted, neither one of the
program nor one of a patch, and no operation that goes elsewhere changes its value or gives it
children. What it can lose is children: a deletion asks the child, and not the parent whose list
it changes and which it marks. So a protected element stays as it is exactly as long as no child
of it is deleted.
-/

set_option autoImplicit false

namespace Graft

/-! ## Changes of a run -/

variable {id : ElementId}

/-- No edit statement lifts a protection. -/
theorem Host.Edited.readOnly_eq {fields : FieldConventions} {P : Statement → Prop} {h h' : Host}
    {target : ElementId} (he : h.Edited fields P target h') (id : ElementId) :
    (h'.get id).readOnly = (h.get id).readOnly := by
  cases he with
  | set _ _ hset | field _ _ _ hset =>
    obtain ⟨_, rfl⟩ := Host.set_eq_ok_iff.mp hset
    exact Host.field_update h target id (f := Element.readOnly) fun _ => rfl
  | merge _ _ hmerge =>
    obtain ⟨_, rfl⟩ := Host.merge_eq_ok_iff.mp hmerge
    exact Host.field_update h target id (f := Element.readOnly) fun _ => rfl
  | delete _ _ hdelete =>
    obtain ⟨_, parent, _, rfl⟩ := Host.delete_eq_ok_iff.mp hdelete
    refine Eq.trans (Host.field_update _ target id (f := Element.readOnly) fun _ => rfl) ?_
    exact Host.field_update h parent id (f := Element.readOnly) fun _ => rfl

/-- An edit statement takes children from a protected element at most. -/
theorem Host.Edited.onlyLoses {fields : FieldConventions} {P : Statement → Prop} {h h' : Host}
    {target : ElementId} (he : h.Edited fields P target h') (hh : h.Consistent)
    (hprotected : (h.get id).readOnly = true) : Host.OnlyLoses id h h' := by
  cases he with
  | set _ _ hset | field _ _ _ hset => exact hh.onlyLoses_of_spares (.set hprotected hset)
  | merge _ _ hmerge => exact hh.onlyLoses_of_spares (.merge hprotected hmerge)
  | delete _ _ hdelete => exact hh.onlyLoses_delete hprotected hdelete

/-- Every change of a machine leaves a protected element protected, and takes children from it at
most. -/
theorem Change.onlyLoses {t : Terms} {m m' : Machine} (h : Change t m m')
    (hh : m.host.Consistent) (hid : id < m.host.elements.size)
    (hprotected : (m.host.get id).readOnly = true) :
    (m'.host.get id).readOnly = true ∧ Host.OnlyLoses id m.host m'.host := by
  have hspared : ∀ {host : Host}, Host.Spares id m.host host →
      (host.get id).readOnly = true ∧ Host.OnlyLoses id m.host host := by
    intro host hs
    refine ⟨?_, hh.onlyLoses_of_spares hs⟩
    rw [hs.get]
    exact hprotected
  have hselect : ∀ {selector : Selector} {scope : ElementId}
      {r : Except SelectorError (List ElementId)} {host : Host},
      selector.resolve t.provision scope m.host = (r, host) → Host.Spares id m.host host := by
    intro selector scope r host hr
    have hs := Host.Spares.select hid hprotected t.provision.registry.rulesets
      t.provision.settings.limits.maxRulesetDepth selector scope
    rw [Selector.resolve] at hr
    rw [hr] at hs
    exact hs
  cases h with
  | failed _ hr _ | yielded _ hr _ => exact hspared (hselect hr)
  | edited he _ => exact ⟨(he.readOnly_eq id).trans hprotected, he.onlyLoses hh hprotected⟩
  | opened | bound | function | mixin | stage | skipped | ran => exact hspared (.refl _)

/-! ## Executions -/

/-- A machine of an execution that has started at a host where an element is protected: it is
still protected, and has lost deleted children at most. -/
structure Machine.Guards (start : Host) (id : ElementId) (m : Machine) : Prop where
  rooted : m.Rooted start
  readOnly : (m.host.get id).readOnly = true
  follows : Host.Follows start m.host
  loses : Host.OnlyLoses id start m.host

namespace Machine.Guards

variable {start : Host} {m m' : Machine}

theorem change {t : Terms} (hstart : start.Consistent) (haccounted : t.accounted)
    (hid : id < start.elements.size) (h : Change t m m') (hm : m.Guards start id) :
    m'.Guards start id := by
  have htree : m.host.Consistent := hm.rooted.reached.consistent hstart
  have hlt : id < m.host.elements.size := Nat.lt_of_lt_of_le hid hm.follows.size
  obtain ⟨hprotected, hloses⟩ := h.onlyLoses htree hlt hm.readOnly
  exact ⟨h.rooted hstart haccounted hm.rooted, hprotected, hm.follows.trans h.follows,
    hm.loses.trans hloses h.follows.deleted⟩

theorem atDepth (n : Nat) (hm : m.Guards start id) : Guards start id { m with callDepth := n } :=
  ⟨⟨hm.rooted.reached, hm.rooted.root, hm.rooted.matched⟩, hm.readOnly, hm.follows, hm.loses⟩

theorem atStart (hstart : start.Consistent) (hroot : Host.root < start.elements.size)
    (hprotected : (start.get id).readOnly = true) : (Machine.start start).2.Guards start id where
  rooted := ⟨.start, hroot, fun _ hmem => by cases hmem⟩
  readOnly := hprotected
  follows := .refl start
  loses := hstart.onlyLoses_of_spares (.refl start)

end Machine.Guards

/-! ## Histories -/

/-- An operation takes children from a protected element at most. -/
theorem Operation.onlyLoses {h : Host} (hh : h.Consistent) (hroot : Host.root < h.elements.size)
    (hid : id < h.elements.size) (hprotected : (h.get id).readOnly = true) (op : Operation) :
    Host.OnlyLoses id h (op.perform h) := by
  have hrefl : Host.OnlyLoses id h h := hh.onlyLoses_of_spares (.refl h)
  cases op with
  | openElement target => exact hrefl
  | set target v =>
    exact of_getD hrefl fun h' hset => hh.onlyLoses_of_spares (.set hprotected hset)
  | merge target v =>
    exact of_getD hrefl fun h' hmerge => hh.onlyLoses_of_spares (.merge hprotected hmerge)
  | delete held target =>
    exact of_getD hrefl fun h' hdelete => hh.onlyLoses_delete hprotected hdelete
  | add target tag =>
    refine of_getD hrefl fun h' hr => ?_
    obtain ⟨child, hadd⟩ := exists_added hr
    exact hh.onlyLoses_of_spares (.add hid hprotected hadd)
  | setReadOnly target on => exact hh.onlyLoses_setReadOnly id target on
  | execute p held patch =>
    obtain ⟨m, hev, hhost⟩ := Patch.evolves_executeHolding p held patch h
    have hm : m.Guards h id :=
      hev.invariant (J := fun m => m.Guards h id) (fun hc hm => hm.change hh trivial hid hc)
        (fun n hm => hm.atDepth n) (.atStart hh hroot hprotected)
    have hloses := hm.loses
    rw [hhost] at hloses
    exact hloses

/-- The hosts that operations make while an element is protected: it is whenever one of them is
performed. -/
inductive Host.ProtectedHistory (id : ElementId) (start : Host) : Host → Prop
  | start : ProtectedHistory id start start
  | perform {h : Host} (op : Operation) :
    ProtectedHistory id start h → (h.get id).readOnly = true → op.On h →
    ProtectedHistory id start (op.perform h)

theorem Host.ProtectedHistory.history {start h : Host} (hh : ProtectedHistory id start h) :
    History start h := by
  induction hh with
  | start => exact .start
  | perform op _ _ hop ih => exact ih.perform op hop

/-- **While an element is protected, it only loses deleted children.** -/
theorem Host.ProtectedHistory.onlyLoses {start h : Host} (hh : ProtectedHistory id start h)
    (hstart : start.Consistent) (hroot : root < start.elements.size)
    (hid : id < start.elements.size) : OnlyLoses id start h := by
  induction hh with
  | start => exact hstart.onlyLoses_of_spares (.refl start)
  | @perform h op hprev hprotected hop ih =>
    have hfollows := hprev.history.follows
    have htree : h.Consistent := (hprev.history.reached hstart hroot).consistent hstart
    have hstep := op.onlyLoses htree (Nat.lt_of_lt_of_le hroot hfollows.size)
      (Nat.lt_of_lt_of_le hid hfollows.size) hprotected
    exact ih.trans hstep (op.follows h).deleted

/-- **A protected element stays as it is, but for children that are deleted.** Whatever has
happened to a described tree: an element that is protected refuses every edit, through whatever
handle it comes. As long as it is protected, whatever else happens to the tree, its value is what
it was, its children are those that it had, in their order, except what has been deleted of them,
and it is marked if it was marked or has lost one. So its value, its children and its mark are
what they were exactly if none of its children has been deleted. The same holds at every moment of
every execution. -/
theorem Host.History.kept_while_protected {kinds : Kinds} {d : Description} {h : Host}
    (hh : History (.ofDescription kinds d) h) {id : ElementId} (hid : id < h.elements.size)
    (hprotected : (h.get id).readOnly = true) :
    ((h.get id).deleted = false → h.Refuses id (.readOnly (h.get id).describe)) ∧
    ((h.get id).deleted = true → h.Refuses id (.deleted (h.get id).describe)) ∧
    ∀ h', (ProtectedHistory id h h' ∨ ∃ p patch μ, Moment.Reaches p (.start p patch h) μ ∧
        (h' = μ.machine.host ∨ h' = (μ.after p).host)) →
      (h'.get id).value = (h.get id).value ∧
      (h'.get id).children = ((h.get id).children.filter fun c => !(h'.get c).deleted) ∧
      (h'.get id).modified =
        ((h.get id).modified || (h.get id).children.any fun c => (h'.get c).deleted) ∧
      (((h'.get id).value = (h.get id).value ∧ (h'.get id).children = (h.get id).children ∧
          (h'.get id).modified = (h.get id).modified) ↔
        ∀ c ∈ (h.get id).children, (h'.get c).deleted = false) := by
  have htree : h.Consistent := hh.consistent
  have hroot : root < h.elements.size := hh.root_lt_size
  refine ⟨refuses_of_readOnly hprotected, refuses_of_deleted, fun h' hlater => ?_⟩
  have hloses : OnlyLoses id h h' := by
    rcases hlater with hlater | ⟨p, patch, μ, hμ, hhost⟩
    · exact hlater.onlyLoses htree hroot hid
    · have hguards := Moment.Reaches.invariant (J := fun m => m.Guards h id)
        (Registry.every_of (fun _ => trivial) p.registry)
        (Statement.everyIn_of (fun _ => trivial) patch.statements)
        (fun hc hm => hm.change htree trivial hid hc) (fun n hm => hm.atDepth n)
        (.atStart htree hroot hprotected) hμ
      rcases hhost with rfl | rfl
      · exact hguards.1.loses
      · exact hguards.2.loses
  exact ⟨hloses.value, hloses.children, hloses.modified, hloses.unchanged_iff⟩

/-- A root above a protected `g` above `a`. -/
def Description.guarded : Description :=
  .mk "doc" none [] .null [.mk "g" none [] .null [.mk "a" none [] .null [] false] true] false

/-- `g` refuses a value as protected. A patch may give `a` a value, and `g` stays as it is; when
the program then deletes `a`, `g` has lost its child. -/
theorem Host.History.kept_while_protected_guarded :
    let p : Provision := ⟨.withActiveMods [], .standard⟩
    let setting : Patch := .ofDraft (.visiting [.set .origin (.boolean .origin true)])
    let h : Host := .ofDescription [] .guarded
    let behind := Operation.perform h (.execute p [2] setting)
    let later := Operation.perform behind (.delete [0] 2)
    (h.get 1).readOnly = true ∧ h.set 1 .null = .error (.readOnly "g") ∧
      (behind.get 2).value = .bool true ∧
      (behind.get 1).children = [2] ∧ (behind.get 1).modified = false ∧
      (later.get 1).children = [] ∧ (later.get 1).modified = true := by
  intro p setting h behind later
  have hprotected : (h.get 1).readOnly = true := rfl
  have hvalue : (behind.get 2).value = .bool true := rfl
  have hstill : (behind.get 1).readOnly = true := rfl
  have hbehind : Host.ProtectedHistory 1 h behind :=
    .perform (.execute p [2] setting) .start hprotected trivial
  have hlater : Host.ProtectedHistory 1 h later :=
    hbehind.perform (.delete [0] 2) hstill (by decide)
  have hstart : Host.History (.ofDescription [] .guarded) h := .start
  have hlt : 1 < h.elements.size := by decide
  obtain ⟨hrefuses, _, hloses⟩ := Host.History.kept_while_protected hstart hlt hprotected
  have hchildren : (h.get 1).children = [2] := rfl
  have hmodified : (h.get 1).modified = false := rfl
  have hkept : (behind.get 2).deleted = false := rfl
  have hgone : (later.get 2).deleted = true := by decide +kernel
  obtain ⟨_, _, _, hunchanged⟩ := hloses behind (.inl hbehind)
  obtain ⟨_, hlist, hmark, _⟩ := hloses later (.inl hlater)
  obtain ⟨_, hlist', hmark'⟩ := hunchanged.mpr (by simp [hchildren, hkept])
  refine ⟨hprotected, (hrefuses rfl).set .null, hvalue, ?_, ?_, ?_, ?_⟩
  · rw [hlist', hchildren]
  · rw [hmark', hmodified]
  · rw [hlist, hchildren]
    simp [hgone]
  · rw [hmark, hchildren]
    simp [hgone]

/-- A patch deletes `a` although the list that this changes is that of `g`, which is protected
before and after: `g` has no children any more, and it is marked. -/
theorem Patch.execute_deletes_child_of_protected :
    let p : Provision := ⟨.withActiveMods [], .standard⟩
    let deleting : Patch := .ofDraft (.visiting [.delete .origin])
    let h : Host := .ofDescription [] .guarded
    let behind := (deleting.execute p h).2
    (h.get 1).readOnly = true ∧ (behind.get 1).readOnly = true ∧
      (deleting.execute p h).1.toOption.map Report.edits = some 1 ∧
      (h.get 1).children = [2] ∧ (behind.get 1).children = [] ∧
      (h.get 1).modified = false ∧ (behind.get 1).modified = true := by
  decide +kernel

end Graft
