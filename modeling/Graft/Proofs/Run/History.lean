import Graft.Proofs.Host.Description
import Graft.Proofs.Host.Marks
import Graft.Proofs.Run.Attachment

/-!
The histories of a tree.

A program opens elements and edits them, adds new ones, protects them and lets patches run, in any
order and through any handles that it still has, also those of elements that have been deleted.
An operation that is refused leaves the host as it is. An execution keeps what it has edited,
whether it succeeds or fails.

Whatever has happened to a tree, the marks of its elements tell what has changed, the tree is a
tree, and its description tells what it is.
-/

set_option autoImplicit false

namespace Graft

/-! ## Executions -/

/-- Runs a patch while the program holds more elements than the root. -/
def Patch.executeHolding (p : Provision) (held : List ElementId) (patch : Patch) (h : Host) :
    Except Halt Report × Host :=
  let (env, m) := Machine.start h
  let enter := Run.enterWithin p (p.settings.limits.maxCallDepth + 1)
  match Run.runBlock p enter env ⟨Host.root, false, Host.root :: held⟩ patch.statements m with
  | .ok _ m => (.ok m.report, m.host)
  | .error halt m => (.error halt, m.host)

theorem Patch.executeHolding_nil (p : Provision) (patch : Patch) (h : Host) :
    patch.executeHolding p [] h = patch.execute p h := rfl

/-- An execution is a chain of changes, on the widest terms. -/
theorem Patch.evolves_executeHolding (p : Provision) (held : List ElementId) (patch : Patch)
    (h : Host) :
    ∃ m, Evolves (.whole p (fun _ => True) (Registry.every_of (fun _ => trivial) _))
      (Machine.start h).2 m ∧ m.host = (patch.executeHolding p held h).2 := by
  let t : Terms := .whole p (fun _ => True) (Registry.every_of (fun _ => trivial) _)
  have hmakes : Makes t (fun _ => False)
      (Run.runBlock p (Run.enterWithin p (p.settings.limits.maxCallDepth + 1)) (Machine.start h).1
        ⟨Host.root, false, Host.root :: held⟩ patch.statements) fun _ => True := by
    refine Makes.runBlock (t := t) (Run.enterWithin_keeps t _) patch.statements
      (Statement.everyIn_of (fun _ => trivial) _) trivial fun _ hscope => ?_
    -- The root is no element that is offered to edits.
    rcases hscope with hselected | hroot
    · cases hselected
    · exact absurd rfl hroot
  have hstart : (Machine.start h).2.Sound t fun _ => False :=
    { functions := fun hf => by cases hf
      mixins := fun _ _ _ hf => by cases hf
      base := Nat.zero_le _
      matched := fun _ hid => hid.elim }
  refine ⟨_, (hmakes _ hstart).1, ?_⟩
  simp only [executeHolding, Machine.start, Run.after]
  generalize Run.runBlock p _ _ _ patch.statements _ = r
  cases r <;> rfl

/-! ## Operations -/

/-- What a program can do with a tree. -/
inductive Operation where
  /-- Opens an element for edits. -/
  | openElement (id : ElementId)
  | set (id : ElementId) (v : Value)
  | merge (id : ElementId) (v : Value)
  /-- Deletes an element while others are held. -/
  | delete (held : List ElementId) (id : ElementId)
  | add (id : ElementId) (tag : String)
  | setReadOnly (id : ElementId) (on : Bool)
  /-- Runs a patch while elements are held. -/
  | execute (p : Provision) (held : List ElementId) (patch : Patch)

namespace Operation

/-- The host behind an operation. One that is refused leaves the host as it is, and so does
opening an element. -/
def perform (h : Host) : Operation → Host
  | openElement _ => h
  | set id v => (h.set id v).toOption.getD h
  | merge id v => (h.merge id v).toOption.getD h
  | delete held id => (h.delete held id).toOption.getD h
  | add id tag => ((h.add id tag).map Prod.snd).toOption.getD h
  | setReadOnly id on => h.setReadOnly id on
  | execute p held patch => (patch.executeHolding p held h).2

/-- An operation goes to an element that is there. -/
def On (h : Host) : Operation → Prop
  | openElement id | set id _ | merge id _ | delete _ id | add id _ | setReadOnly id _ =>
    id < h.elements.size
  | execute _ _ _ => True

instance (h : Host) : (op : Operation) → Decidable (op.On h)
  | openElement _ | set _ _ | merge _ _ | delete _ _ | add _ _ | setReadOnly _ _ => Nat.decLt _ _
  | execute _ _ _ => isTrue trivial

/-- What holds of a host, and of what an edit makes of it if it is accepted, holds behind the
edit. -/
theorem of_getD {J : Host → Prop} {h : Host} {r : Except HostError Host} (hh : J h)
    (hr : ∀ h', r = .ok h' → J h') : J (r.toOption.getD h) := by
  cases r with
  | error e => exact hh
  | ok h' => exact hr h' rfl

/-- An addition that leaves a host has made an element. -/
theorem exists_added {h h' : Host} {id : ElementId} {tag : String}
    (hadd : (h.add id tag).map Prod.snd = .ok h') : ∃ child, h.add id tag = .ok (child, h') := by
  cases hr : h.add id tag with
  | error e =>
    rw [hr] at hadd
    cases hadd
  | ok result =>
    rw [hr] at hadd
    cases hadd
    exact ⟨result.1, rfl⟩

end Operation

/-- The hosts that operations make, one after the other. -/
inductive Host.History (start : Host) : Host → Prop
  | start : History start start
  | perform {h : Host} (op : Operation) :
    History start h → op.On h → History start (op.perform h)

/-! ## Marks -/

theorem Host.Edited.follows {fields : FieldConventions} {P : Statement → Prop} {h h' : Host}
    {id : ElementId} (he : h.Edited fields P id h') : Host.Follows h h' := by
  cases he with
  | set _ _ hset | field _ _ _ hset => exact .set hset
  | delete _ _ hdelete => exact .delete hdelete
  | merge _ _ hmerge => exact .merge hmerge

/-- Every change of a machine marks what it changes. -/
theorem Change.follows {t : Terms} {m m' : Machine} (h : Change t m m') :
    Host.Follows m.host m'.host := by
  -- What a selector leaves has come of what it found.
  have hselect : ∀ {selector : Selector} {scope : ElementId}
      {r : Except SelectorError (List ElementId)} {host : Host},
      selector.resolve t.provision scope m.host = (r, host) → Host.Follows m.host host := by
    intro selector scope r host hr
    have hfollows := Host.Follows.select m.host t.provision.registry.rulesets
      t.provision.settings.limits.maxRulesetDepth selector scope
    rw [Selector.resolve] at hr
    rw [hr] at hfollows
    exact hfollows
  cases h with
  | failed _ hr _ | yielded _ hr _ => exact hselect hr
  | edited he _ => exact he.follows
  | opened | bound | function | mixin | stage | skipped | ran => exact .refl _

theorem Evolves.follows {t : Terms} {m m' : Machine} (h : Evolves t m m') :
    Host.Follows m.host m'.host :=
  h.invariant (J := fun m' => Host.Follows m.host m'.host)
    (fun hchange hm => hm.trans hchange.follows) (fun _ hm => hm) (.refl _)

/-- Every operation marks what it changes, whether it is accepted or refused. -/
theorem Operation.follows (op : Operation) (h : Host) : Host.Follows h (op.perform h) := by
  cases op with
  | openElement id => exact .refl h
  | set id v => exact of_getD (.refl h) fun h' hset => .set hset
  | merge id v => exact of_getD (.refl h) fun h' hmerge => .merge hmerge
  | delete held id => exact of_getD (.refl h) fun h' hdelete => .delete hdelete
  | add id tag =>
    refine of_getD (.refl h) fun h' hr => ?_
    obtain ⟨child, hadd⟩ := exists_added hr
    exact .add hadd
  | setReadOnly id on => exact .setReadOnly h id on
  | execute p held patch =>
    obtain ⟨m, hev, hhost⟩ := Patch.evolves_executeHolding p held patch h
    have hfollows := hev.follows
    rw [hhost] at hfollows
    exact hfollows

theorem Host.History.follows {start h : Host} (hh : Host.History start h) :
    Host.Follows start h := by
  induction hh with
  | start => exact .refl start
  | perform op _ _ ih => exact ih.trans (op.follows _)

/-- **The mark of modification is sound.** Whatever has happened to a described tree: an element
that is not marked as modified was built with the tree, and has the value and the children that
it was built with. And whatever happens from there on, the mark is not taken back. -/
theorem Host.History.unmodified {kinds : Kinds} {d : Description} {h : Host}
    (hh : Host.History (.ofDescription kinds d) h) :
    (∀ id, id < h.elements.size → (h.get id).modified = false →
      id < (Host.ofDescription kinds d).elements.size ∧
      (h.get id).value = ((Host.ofDescription kinds d).get id).value ∧
      (h.get id).children = ((Host.ofDescription kinds d).get id).children) ∧
    ∀ h', Host.History h h' → ∀ id, (h.get id).modified = true → (h'.get id).modified = true :=
  ⟨hh.follows.untouched, fun _ hlater => hlater.follows.modified⟩

/-- In the chain `doc > a > b`, the deletion of `a` marks `doc` and `a`. What is below `a` is not
marked and is as it was built, and an edit of `a` that is refused takes no mark back. -/
theorem Host.History.unmodified_below_deleted :
    let built : Host := .ofDescription [] .chain
    let h := Operation.perform built (.delete [0] 1)
    Host.History built h ∧ (h.get 2).modified = false ∧
      (h.get 2).value = (built.get 2).value ∧ (h.get 2).children = (built.get 2).children ∧
      (h.get 1).modified = true ∧ ((Operation.perform h (.set 1 .null)).get 1).modified = true := by
  intro built h
  have hh : Host.History built h := Host.History.start.perform (.delete [0] 1) (by decide)
  have hlater : Host.History h (Operation.perform h (.set 1 .null)) :=
    Host.History.start.perform (.set 1 .null) (by decide)
  obtain ⟨hunmodified, hmarks⟩ := Host.History.unmodified hh
  obtain ⟨_, hvalue, hchildren⟩ := hunmodified 2 (by decide) rfl
  exact ⟨hh, rfl, hvalue, hchildren, rfl, hmarks _ hlater 1 rfl⟩

/-! ## The tree -/

/-- Operations make hosts that the operations of elements make, one after the other. -/
theorem Operation.reached {start h : Host} (hstart : start.Consistent) (hh : Host.Reached start h)
    (hroot : Host.root < h.elements.size) {op : Operation} (hop : op.On h) :
    Host.Reached start (op.perform h) := by
  cases op with
  | openElement id => exact hh
  | set id v => exact of_getD hh fun h' hset => hh.set hset
  | merge id v => exact of_getD hh fun h' hmerge => hh.merge hmerge
  | delete held id => exact of_getD hh fun h' hdelete => hh.delete hdelete
  | add id tag =>
    refine of_getD hh fun h' hr => ?_
    obtain ⟨child, hadd⟩ := exists_added hr
    exact hh.add hop hadd
  | setReadOnly id on => exact hh.setReadOnly id on
  | execute p held patch =>
    obtain ⟨m, hev, hhost⟩ := Patch.evolves_executeHolding p held patch h
    have hrooted : (Machine.start h).2.Rooted start := ⟨hh, hroot, fun id hid => by cases hid⟩
    -- The machine of an execution stays in the tree.
    have hm : m.Rooted start :=
      hev.invariant (J := fun m => m.Rooted start)
        (fun hchange hm => hchange.rooted hstart trivial hm)
        (fun _ hm => ⟨hm.reached, hm.root, hm.matched⟩) hrooted
    have hreached := hm.reached
    rw [hhost] at hreached
    exact hreached

theorem Host.History.reached {start h : Host} (hstart : start.Consistent)
    (hroot : Host.root < start.elements.size) (hh : Host.History start h) :
    Host.Reached start h := by
  induction hh with
  | start => exact .start
  | perform op hprev hop ih =>
    have hsize := Nat.lt_of_lt_of_le hroot hprev.follows.size
    exact Operation.reached hstart ih hsize hop

/-- Whatever has happened to a described tree, it is a tree. -/
theorem Host.History.consistent {kinds : Kinds} {d : Description} {h : Host}
    (hh : Host.History (.ofDescription kinds d) h) : h.Consistent := by
  have hstart := Host.consistent_ofDescription kinds d
  have hrooted : (Machine.start (.ofDescription kinds d)).2.Rooted (.ofDescription kinds d) :=
    Machine.rooted_start
  exact (hh.reached hstart hrooted.root).consistent hstart

theorem Host.History.trans {start h h' : Host} (hh : Host.History start h)
    (hlater : Host.History h h') : Host.History start h' := by
  induction hlater with
  | start => exact hh
  | perform op _ hop ih => exact ih.perform op hop

/-- **The tree stays a tree.** Whatever has happened to a described tree: the root is in no list
of children. Every other element that is reached from the root is in one list, once, which is
that of its parent, and has not been deleted. What has been deleted is in no list and never comes
back into one. And the deletion of an element takes that element out of the list of its parent,
whose other children stay in their order, and changes no other list. -/
theorem Host.History.tree {kinds : Kinds} {d : Description} {h : Host}
    (hh : Host.History (.ofDescription kinds d) h) :
    (∀ p, Host.root ∉ (h.get p).children) ∧
    (∀ held id, Host.root ∈ held → h.Attached id → id ≠ Host.root →
      ∃ p, h.parent? held id = some p ∧ (h.get p).children.count id = 1 ∧
        (∀ q, id ∈ (h.get q).children → q = p) ∧ (h.get id).deleted = false) ∧
    (∀ h' id, Host.History h h' → (h.get id).deleted = true →
      (h'.get id).deleted = true ∧ ∀ p, id ∉ (h'.get p).children) ∧
    ∀ held id h', h.delete held id = .ok h' →
      ∃ p before behind, h.parent? held id = some p ∧
        (h.get p).children = before ++ id :: behind ∧ (h'.get p).children = before ++ behind ∧
        (∀ q, q ≠ p → (h'.get q).children = (h.get q).children) ∧
        (h'.get id).deleted = true := by
  have htree := hh.consistent
  refine ⟨htree.root_not_mem_children, fun held id hheld hattached hroot => ?_,
    fun h' id hlater hdeleted => ?_, fun held id h' hdelete => htree.delete_children hdelete⟩
  · exact htree.place_of_attached hheld hattached hroot
  · have hstill := hlater.follows.deleted id hdeleted
    exact ⟨hstill, (hh.trans hlater).consistent.not_mem_children_of_deleted hstill⟩

/-- In the chain `doc > a > b`, whose last element has got a value, `a` stands in the list of
`doc`. Its deletion takes it from there, and what is refused later does not bring it back. -/
theorem Host.History.tree_behind_deletion :
    let h := Operation.perform (.ofDescription [] .chain) (.set 2 (.bool true))
    let behind := Operation.perform h (.delete [0] 1)
    Host.root ∉ (h.get 0).children ∧ (h.get 0).children.count 1 = 1 ∧
      h.delete [0] 1 = .ok behind ∧ (behind.get 0).children = [] ∧
      1 ∉ ((Operation.perform behind (.delete [0] 1)).get 0).children := by
  intro h behind
  have hh : Host.History (.ofDescription [] .chain) h :=
    Host.History.start.perform (.set 2 (.bool true)) (by decide)
  have hbehind : Host.History (.ofDescription [] .chain) behind :=
    hh.perform (.delete [0] 1) (by decide)
  have hlater : Host.History behind (Operation.perform behind (.delete [0] 1)) :=
    Host.History.start.perform (.delete [0] 1) (by decide)
  have hattached : h.Attached 1 := .inr ⟨[0], .child (by decide)⟩
  have hdelete : h.delete [0] 1 = .ok behind := rfl
  obtain ⟨hroot, hplace, _, htaken⟩ := Host.History.tree hh
  obtain ⟨p, hp, hcount, _, _⟩ := hplace [0] 1 List.mem_cons_self hattached (by decide)
  cases hp
  obtain ⟨_, _, hdeleted, _⟩ := Host.History.tree hbehind
  exact ⟨hroot 0, hcount, hdelete, rfl, (hdeleted _ 1 hlater rfl).2 0⟩

/-! ## Descriptions -/

theorem Host.History.root_lt_size {kinds : Kinds} {d : Description} {h : Host}
    (hh : Host.History (.ofDescription kinds d) h) : Host.root < h.elements.size := by
  have hrooted : (Machine.start (.ofDescription kinds d)).2.Rooted (.ofDescription kinds d) :=
    Machine.rooted_start
  exact Nat.lt_of_lt_of_le hrooted.root hh.follows.size

/-- **Trees survive their descriptions.** What is built from a description whose values are exact
is described by it. And whatever has happened to a described tree: what its snapshot shows, each
element once, is what has neither been deleted itself nor is below something that has. If the
values of what hangs in the tree are exact, what is built from its description has as many
elements as the snapshot shows, in a tree of the same shape, and each of them agrees with the one
that it stands for. -/
theorem Host.History.described {kinds : Kinds} {d : Description} :
    (d.Exact → (Host.ofDescription kinds d).toDescription Host.root = d) ∧
    ∀ h, Host.History (.ofDescription kinds d) h →
      (h.snapshot Host.root).ids.Nodup ∧
      (∀ id, id ∈ (h.snapshot Host.root).ids ↔ id < h.elements.size ∧
        (h.get id).deleted = false ∧ ∀ a, h.Above a id → (h.get a).deleted = false) ∧
      ((∀ id, h.Attached id → (h.get id).value.Exact) → ∀ kinds' : Kinds,
        let rebuilt : Host := .ofDescription kinds' (h.toDescription Host.root)
        rebuilt.elements.size = (h.snapshot Host.root).ids.length ∧
          (rebuilt.snapshot Host.root).Same (h.snapshot Host.root)) := by
  refine ⟨fun hd => ?_, fun h hh => ?_⟩
  · rw [Host.toDescription, Host.snapshot_ofDescription, Host.describe_numbered hd]
  · have htree := hh.consistent
    have hroot := hh.root_lt_size
    have hshown : ∀ id, id ∈ (h.snapshot Host.root).ids ↔ h.Attached id :=
      fun _ => htree.mem_ids_snapshot_iff hroot
    refine ⟨htree.nodup_ids_snapshot hroot, fun id => ?_, fun hexact kinds' => ?_⟩
    · rw [hshown]
      constructor
      · intro hattached
        have hid : id < h.elements.size := by
          obtain rfl | ⟨path, hd⟩ := hattached
          · exact hroot
          · exact htree.lt_of_descent hd
        exact ⟨hid, (htree.attached_iff hid).mp hattached⟩
      · rintro ⟨hid, hkept⟩
        exact (htree.attached_iff hid).mpr hkept
    · have htold : (h.snapshot Host.root).Exact :=
        Host.exact_snapshotWithin fun id hid => hexact id ((hshown id).mp hid)
      intro rebuilt
      have hrebuilt : rebuilt.snapshot Host.root =
          Host.numbered none Host.root (h.toDescription Host.root) :=
        Host.snapshot_ofDescription kinds' _
      refine ⟨(Host.size_ofDescription kinds' _).trans (Host.count_describe _), ?_⟩
      rw [hrebuilt]
      exact Host.same_numbered_describe htold

/-- A root above `a` and a protected `b`, with values. -/
def Description.pair : Description :=
  .mk "doc" none [] (.object [("n", .int 1), ("m", .array [.null])])
    [.mk "a" none [] .null [] false, .mk "b" (some "B") ["c"] (.string "x") [] true] false

/-- The host of this tree behind an edit of the root and the deletion of `a`. -/
def Host.halved : Host :=
  let value : Value := .object [("n", .int 2), ("p", .list [.bool true])]
  Operation.perform (Operation.perform (.ofDescription [] .pair) (.set 0 value)) (.delete [0] 1)

/-- What is left is the root with its other value, above `b`, and so is what is built from the
description of it. -/
theorem Host.History.described_halved :
    (Host.ofDescription [] .pair).toDescription Host.root = .pair ∧
      (Host.halved.snapshot Host.root).ids = [0, 2] ∧
      (Host.ofDescription [] (Host.halved.toDescription Host.root)).elements.size = 2 ∧
      ((Host.ofDescription [] (Host.halved.toDescription Host.root)).snapshot Host.root).Same
        (Host.halved.snapshot Host.root) := by
  have hpair : Description.pair.Exact := by
    have hdistinct : Table.Distinct [("n", Json.int 1), ("m", .array [.null])] := by
      simp [Table.Distinct, Table.names]
    exact ⟨⟨hdistinct, rfl, ⟨trivial, trivial⟩, trivial⟩, ⟨trivial, trivial⟩, ⟨trivial, trivial⟩,
      trivial⟩
  have hhalved : Host.History (.ofDescription [] .pair) Host.halved :=
    (Host.History.start.perform (.set 0 _) (by decide)).perform (.delete [0] 1) (by decide)
  have hexact : ∀ id, Host.halved.Attached id → (Host.halved.get id).value.Exact := by
    have hdistinct : Table.Distinct [("n", Value.int 2), ("p", .list [.bool true])] := by
      simp [Table.Distinct, Table.names]
    intro id _
    rcases id with _ | _ | _ | id
    · exact ⟨hdistinct, trivial, ⟨trivial, trivial⟩, trivial⟩
    all_goals exact trivial
  have hids : (Host.halved.snapshot Host.root).ids = [0, 2] := rfl
  obtain ⟨hbuilt, hlater⟩ := @Host.History.described [] .pair
  obtain ⟨_, _, hrebuilt⟩ := hlater Host.halved hhalved
  obtain ⟨hsize, hsame⟩ := hrebuilt hexact []
  rw [hids] at hsize
  exact ⟨hbuilt hpair, hids, hsize, hsame⟩

end Graft
