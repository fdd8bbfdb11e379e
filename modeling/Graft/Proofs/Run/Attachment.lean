import Graft.Proofs.Host.Tree
import Graft.Proofs.Run.Deletion
import Graft.Proofs.Run.Moment

/-!
What edits act on.

Selections find their elements before any body runs, and bodies delete elements. So an edit may
come to an element that has been taken out of the tree in the meantime, by its own deletion or
with an element above it. The host of an execution always holds a tree, and whatever a selection
has yielded is an element of it. The host asks for the mark of the element itself: what has been
deleted is edited no more, but what hangs below something deleted is.
-/

set_option autoImplicit false

namespace Graft

/-! ## Selections in a tree -/

namespace Host

theorem checkEditable_of_deleted {h : Host} {id : ElementId}
    (hdeleted : (h.get id).deleted = true) :
    h.checkEditable id = .error (.deleted (h.get id).describe) := by
  simp only [checkEditable, hdeleted, if_true]

theorem add_size {h h' : Host} {id child : ElementId} {tag : String}
    (hadd : h.add id tag = .ok (child, h')) :
    child = h.elements.size ∧ h'.elements.size = h.elements.size + 1 := by
  obtain ⟨_, rfl, v, _, rfl⟩ := add_eq_ok_iff.mp hadd
  rw [size_update, size_push]
  exact ⟨rfl, rfl⟩

theorem Consistent.lt_of_descent {h : Host} {scope id : ElementId} {path : List ElementId}
    (hh : h.Consistent) (hd : h.Descent scope path id) : id < h.elements.size := by
  obtain ⟨p, hp⟩ := hd.exists_mem_children
  exact (hh.mem_children_iff.mp hp).1

/-- What a selection in a host gives: another host that operations make, which has lost nothing,
and elements of it. -/
structure Selected (start h : Host) (r : Except SelectorError (List ElementId) × Host) : Prop where
  reached : Reached start r.2
  size : h.elements.size ≤ r.2.elements.size
  yielded : ∀ ids, r.1 = .ok ids → ∀ id ∈ ids, id < r.2.elements.size

section

variable {start h : Host} {scope : ElementId}

theorem selected_addToEach (tag : String) : ∀ (ids : List ElementId) {h : Host},
    Reached start h → (∀ id ∈ ids, id < h.elements.size) →
    Selected start h (Selector.addToEach tag ids h) := by
  intro ids
  induction ids with
  | nil =>
    intro h hr _
    refine ⟨hr, Nat.le_refl _, fun ids hids => ?_⟩
    cases hids
    simp
  | cons id rest ih =>
    intro h hr hids
    simp only [Selector.addToEach]
    cases hadd : h.add id tag with
    | error e => exact ⟨hr, Nat.le_refl _, fun ids hids => by cases hids⟩
    | ok result =>
      obtain ⟨child, h'⟩ := result
      obtain ⟨hchild, hsize⟩ := add_size hadd
      have hr' := hr.add (hids id List.mem_cons_self) hadd
      have hrest := ih hr' fun id hid => by
        rw [hsize]
        exact Nat.lt_succ_of_lt (hids id (List.mem_cons_of_mem _ hid))
      obtain ⟨hreached, hle, hyielded⟩ := hrest
      rw [hsize] at hle
      refine ⟨hreached, Nat.le_of_succ_le hle, fun ids hids => ?_⟩
      -- The first element that was added, or one of the others.
      show ∀ id ∈ ids, id < (Selector.addToEach tag rest h').2.elements.size
      cases hothers : (Selector.addToEach tag rest h').1 with
      | error e =>
        simp only [hothers] at hids
        cases hids
      | ok others =>
        simp only [hothers] at hids
        cases hids
        intro id hid
        obtain rfl | hid := List.mem_cons.mp hid
        · rw [hchild]
          exact hle
        · exact hyielded others hothers id hid

/-- What is enumerated below an element is there. -/
theorem Consistent.lt_of_mem_enumerate (hh : h.Consistent) (hscope : scope < h.elements.size)
    {rulesets : Table Selector} {limit : Nat} {s : Selector} {ids : List ElementId}
    (hids : s.enumerate rulesets limit (h.snapshot scope) = .ok ids) :
    ∀ id ∈ ids, id < h.elements.size := by
  intro id hid
  have hmem : id ∈ (h.snapshot scope).ids := by
    have hbelow := (Selector.enumerate_sublist hids).subset hid
    generalize h.snapshot scope = tree at hbelow ⊢
    obtain ⟨top, e, children⟩ := tree
    exact List.mem_cons_of_mem _ hbelow
  obtain rfl | ⟨path, hd⟩ := descent_of_mem_ids hmem
  · exact hscope
  · exact hh.lt_of_descent hd

/-- **Selections stay in the tree.** -/
theorem selected_select (hstart : start.Consistent) (hr : Reached start h)
    (hscope : scope < h.elements.size) (rulesets : Table Selector) (limit : Nat) (s : Selector) :
    Selected start h (s.select rulesets limit scope h) := by
  have hh := hr.consistent hstart
  -- What is enumerated behind a check is enumerated.
  have henumerate : ∀ {check : Except SelectorError Unit} {s : Selector} {ids : List ElementId},
      (do check; s.enumerate rulesets limit (h.snapshot scope)) = .ok ids →
      ∀ id ∈ ids, id < h.elements.size := by
    intro check s ids hids
    cases check with
    | error e => cases hids
    | ok _ => exact hh.lt_of_mem_enumerate hscope hids
  unfold Selector.select
  split
  · refine selected_addToEach _ _ hr fun id hid => ?_
    rw [List.mem_singleton.mp hid]
    exact hscope
  · split
    · rename_i hids
      exact selected_addToEach _ _ hr (henumerate hids)
    · exact ⟨hr, Nat.le_refl _, fun ids hids => by cases hids⟩
  · exact ⟨hr, Nat.le_refl _, fun ids hids => henumerate hids⟩

end

end Host

/-! ## Machines in a tree -/

/-- A machine of an execution that began with `start`: its host is one that operations have made
from it, and what selections have yielded is there. -/
structure Machine.Rooted (start : Host) (m : Machine) : Prop where
  reached : Host.Reached start m.host
  root : Host.root < m.host.elements.size
  matched : ∀ id ∈ m.report.matched, id < m.host.elements.size

theorem Host.Edited.reached {start h h' : Host} {fields : FieldConventions} {P : Statement → Prop}
    {id : ElementId} (he : h.Edited fields P id h') (hr : Host.Reached start h) :
    Host.Reached start h' ∧ h'.elements.size = h.elements.size := by
  cases he with
  | set _ _ hset =>
    refine ⟨hr.set hset, ?_⟩
    obtain ⟨_, rfl⟩ := Host.set_eq_ok_iff.mp hset
    exact Host.size_update _ _ _
  | delete _ _ hdelete =>
    refine ⟨hr.delete hdelete, ?_⟩
    obtain ⟨_, parent, _, rfl⟩ := Host.delete_eq_ok_iff.mp hdelete
    simp only [Host.detached, Host.size_update]
  | merge _ _ hmerge =>
    refine ⟨hr.merge hmerge, ?_⟩
    obtain ⟨_, rfl⟩ := Host.merge_eq_ok_iff.mp hmerge
    exact Host.size_update _ _ _
  | field _ _ _ hset =>
    refine ⟨hr.set hset, ?_⟩
    obtain ⟨_, rfl⟩ := Host.set_eq_ok_iff.mp hset
    exact Host.size_update _ _ _

/-- Every change leaves a machine in the tree, where account is kept of the scopes. -/
theorem Change.rooted {t : Terms} {start : Host} {m m' : Machine} (hstart : start.Consistent)
    (haccounted : t.accounted) (h : Change t m m') (hm : m.Rooted start) : m'.Rooted start := by
  -- Scopes are the root or have been yielded, so they are elements of the host.
  have hselect : ∀ {selector : Selector} {scope : ElementId}
      {r : Except SelectorError (List ElementId) × Host},
      selector.resolve t.provision scope m.host = r → m.Scope t scope →
      Host.Selected start m.host r := by
    rintro selector scope _ rfl hscope
    refine Host.selected_select hstart hm.reached ?_ _ _ selector
    rcases hscope haccounted with rfl | hmem
    · exact hm.root
    · exact hm.matched scope hmem
  cases h with
  | failed _ hr hscope =>
    obtain ⟨hreached, hsize, _⟩ := hselect hr hscope
    exact ⟨hreached, Nat.lt_of_lt_of_le hm.root hsize,
      fun id hid => Nat.lt_of_lt_of_le (hm.matched id hid) hsize⟩
  | yielded _ hr hscope =>
    obtain ⟨hreached, hsize, hyielded⟩ := hselect hr hscope
    refine ⟨hreached, Nat.lt_of_lt_of_le hm.root hsize, fun id hid => ?_⟩
    rcases List.mem_append.mp hid with hid | hid
    · exact hyielded _ rfl id (List.mem_reverse.mp hid)
    · exact Nat.lt_of_lt_of_le (hm.matched id hid) hsize
  | edited he _ =>
    obtain ⟨hreached, hsize⟩ := he.reached hm.reached
    exact ⟨hreached, Nat.lt_of_lt_of_eq hm.root hsize.symm,
      fun id hid => Nat.lt_of_lt_of_eq (hm.matched id hid) hsize.symm⟩
  | opened | bound | function | mixin | stage | skipped | ran =>
    exact ⟨hm.reached, hm.root, hm.matched⟩

section

variable {p : Provision} {patch : Patch} {kinds : Kinds} {d : Description}

theorem Machine.rooted_start :
    (Machine.start (.ofDescription kinds d)).2.Rooted (.ofDescription kinds d) where
  reached := .start
  root := by
    show Host.root < (Host.ofDescription kinds d).elements.size
    rw [Host.size_ofDescription]
    obtain ⟨type, name, classes, value, children, readOnly⟩ := d
    exact Nat.succ_pos _
  matched id hid := by cases hid

/-- **Every moment.** The machine at a moment of an execution on a described tree is rooted in
it, and so is the machine behind what is run there. -/
theorem Moment.Reaches.rooted {μ : Moment}
    (hμ : Moment.Reaches p (.start p patch (.ofDescription kinds d)) μ) :
    μ.machine.Rooted (.ofDescription kinds d) ∧ (μ.after p).Rooted (.ofDescription kinds d) := by
  have hregistry : p.registry.Every fun _ => True := Registry.every_of (fun _ => trivial) _
  exact Moment.Reaches.invariant (J := fun m => m.Rooted (.ofDescription kinds d)) hregistry
    (Statement.everyIn_of (fun _ => trivial) patch.statements)
    (fun hchange hm => hchange.rooted (Host.consistent_ofDescription kinds d) trivial hm)
    (fun _ hm => ⟨hm.reached, hm.root, hm.matched⟩) Machine.rooted_start hμ

end

/-! ## Edit statements -/

namespace Run

/-- What an edit statement comes to: behind its operand, on the machine `m'`, it puts the edit
`change` of the selected element to the host. -/
inductive Requests (p : Provision) (enter : Enter) (env : Environment) (ctx : Context)
    (m : Machine) : Statement → Coordinate → (Host → Except HostError Host) → Machine → Prop
  | set {loc : Coordinate} {e : Expr} {v : Value} {m' : Machine} :
    ctx.selected = true → evaluate p enter env ctx e m = .ok v m' →
    Requests p enter env ctx m (.set loc e) loc
      (fun h => if v.isDeletion then h.delete ctx.held ctx.element
        else h.set ctx.element v.withoutDeletions) m'
  | delete {loc : Coordinate} :
    ctx.selected = true →
    Requests p enter env ctx m (.delete loc) loc (fun h => h.delete ctx.held ctx.element) m
  | merge {loc : Coordinate} {e : Expr} {v : Value} {m' : Machine} :
    ctx.selected = true → evaluate p enter env ctx e m = .ok v m' →
    Requests p enter env ctx m (.merge loc e) loc
      (fun h => if v.isDeletion then h.delete ctx.held ctx.element else h.merge ctx.element v) m'
  | field {loc : Coordinate} {key : String} {indexer : Option Indexer} {e : Expr}
    {path : List Segment} {v changed : Value} {m' : Machine} :
    ctx.selected = true → fieldPath key indexer = .ok path →
    evaluate p enter env ctx e m = .ok v m' →
    Value.writeAt p.settings.fields v (m'.host.get ctx.element).value.orObject path =
      .ok changed →
    Requests p enter env ctx m (.field loc key indexer e) loc
      (fun h => h.set ctx.element changed) m'

variable {p : Provision} {enter : Enter} {env : Environment} {ctx : Context} {m m' : Machine}
  {s : Statement} {loc : Coordinate} {change : Host → Except HostError Host}

theorem target_of_selected (h : ctx.selected = true) (loc : Coordinate) (site : EditSite) :
    target ctx loc site = pure ctx.element :=
  if_pos h

theorem Requests.selected (h : Requests p enter env ctx m s loc change m') :
    ctx.selected = true := by
  cases h with
  | set hsel _ | merge hsel _ => exact hsel
  | delete hsel => exact hsel
  | field hsel _ _ _ => exact hsel

/-- An edit statement that comes to an edit ends as the edit does. -/
theorem Requests.run (h : Requests p enter env ctx m s loc change m') :
    runStatement p enter env ctx s m = (edit loc change >>= fun _ => pure .next) m' := by
  cases h with
  | set hsel hv =>
    rw [runStatement, bind_ok hv, setValue, target_of_selected hsel]
    rfl
  | delete hsel =>
    rw [runStatement, deleteElement, target_of_selected hsel]
    rfl
  | merge hsel hv =>
    rw [runStatement, bind_ok hv, mergeValue, target_of_selected hsel]
    rfl
  | @field _ _ _ e path v changed _ hsel hpath hv hwrite =>
    rw [runStatement, hpath]
    show (evaluate p enter env ctx e >>= _) m = _
    rw [bind_ok hv, writeField_eq, target_of_selected hsel]
    show (writeInto p.settings.fields loc path v ctx.element >>= fun _ => pure Flow.next) m' = _
    -- The written value is known, so what is left is the edit.
    have hedit : writeInto p.settings.fields loc path v ctx.element m' =
        edit loc (fun h => h.set ctx.element changed) m' := by
      rw [writeInto, hwrite]
      rfl
    show EStateM.bind _ _ m' = EStateM.bind _ _ m'
    rw [EStateM.bind, EStateM.bind, hedit]

/-- The host refuses the edit of an element that has been deleted. -/
theorem Requests.refused (h : Requests p enter env ctx m s loc change m')
    (hdeleted : (m'.host.get ctx.element).deleted = true) :
    change m'.host = .error (.deleted (m'.host.get ctx.element).describe) := by
  -- Each operation of the host asks for the mark first.
  have hcheck := Host.checkEditable_of_deleted hdeleted
  have hdelete : m'.host.delete ctx.held ctx.element =
      .error (.deleted (m'.host.get ctx.element).describe) := by
    rw [Host.delete, hcheck]
    rfl
  have hset : ∀ v, m'.host.set ctx.element v =
      .error (.deleted (m'.host.get ctx.element).describe) := by
    intro v
    rw [Host.set, hcheck]
    rfl
  have hmerge : ∀ v, m'.host.merge ctx.element v =
      .error (.deleted (m'.host.get ctx.element).describe) := by
    intro v
    rw [Host.merge, hcheck]
    rfl
  cases h with
  | set =>
    split
    · exact hdelete
    · exact hset _
  | delete => exact hdelete
  | merge =>
    split
    · exact hdelete
    · exact hmerge _
  | field => exact hset _

/-- The operand of an edit statement is evaluated on the terms of the statement. -/
theorem Requests.evolves {t : Terms} {X : ElementId → Prop} (he : enter.Keeps t)
    (hctx : ctx.Admitted t X) (hs : s.Every t.statements) (hm : m.Sound t X)
    (h : Requests t.provision enter env ctx m s loc change m') : Evolves t m m' := by
  cases h with
  | set _ hv => exact ((Makes.evaluate he env hctx _ hs.2).behind hm hv).1
  | delete _ => exact .refl m
  | merge _ hv => exact ((Makes.evaluate he env hctx _ hs.2).behind hm hv).1
  | field _ _ hv _ => exact ((Makes.evaluate he env hctx _ hs.2).behind hm hv).1

/-- An edit that ends well has been accepted by the host, and counted. -/
theorem edited_of_edit {flow : Flow} {m'' : Machine}
    (h : (edit loc change >>= fun _ => pure Flow.next) m' = .ok flow m'') :
    ∃ host, change m'.host = .ok host ∧ m'' = m'.edited host := by
  cases hc : change m'.host with
  | error e =>
    rw [bind_error (edit_error loc change hc)] at h
    cases h
  | ok host =>
    rw [bind_ok (edit_ok loc change hc)] at h
    cases h
    exact ⟨host, rfl, rfl⟩

/-- An edit statement that goes on has found an element selected. -/
theorem selected_of_target {α : Type} {f : ElementId → Run α} {site : EditSite} {a : α}
    {m'' : Machine} (h : (target ctx loc site >>= f) m' = .ok a m'') : ctx.selected = true := by
  by_cases hsel : ctx.selected = true
  · exact hsel
  · rw [target, if_neg hsel] at h
    cases h

/-- **Edit statements that succeed.** Each has come to an edit of the selected element, which
the host has accepted and the report counts. -/
theorem requests_of_ok (hs : s.isEdit = true) {flow : Flow} {m'' : Machine}
    (h : runStatement p enter env ctx s m = .ok flow m'') :
    ∃ loc change m' host, Requests p enter env ctx m s loc change m' ∧
      change m'.host = .ok host ∧ m'' = m'.edited host := by
  have hrequest : ∃ loc change m', Requests p enter env ctx m s loc change m' := by
    cases s with
    | set loc e =>
      rw [runStatement] at h
      obtain ⟨v, m', hv, h⟩ := bind_eq_ok_iff.mp h
      obtain ⟨_, m₁, hset, _⟩ := bind_eq_ok_iff.mp h
      exact ⟨loc, _, m', .set (selected_of_target hset) hv⟩
    | delete loc =>
      rw [runStatement] at h
      obtain ⟨_, m₁, hdelete, _⟩ := bind_eq_ok_iff.mp h
      exact ⟨loc, _, m, .delete (selected_of_target hdelete)⟩
    | merge loc e =>
      rw [runStatement] at h
      obtain ⟨v, m', hv, h⟩ := bind_eq_ok_iff.mp h
      obtain ⟨_, m₁, hmerge, _⟩ := bind_eq_ok_iff.mp h
      exact ⟨loc, _, m', .merge (selected_of_target hmerge) hv⟩
    | field loc key indexer e =>
      rw [runStatement] at h
      obtain ⟨path, m₀, hfound, h⟩ := bind_eq_ok_iff.mp h
      obtain ⟨hpath, rfl⟩ := ofExcept_eq_ok hfound
      obtain ⟨v, m', hv, h⟩ := bind_eq_ok_iff.mp h
      obtain ⟨_, m₁, hwrite, _⟩ := bind_eq_ok_iff.mp h
      have hsel := selected_of_target hwrite
      -- The write itself may fail before there is an edit.
      rw [writeField_eq, target_of_selected hsel] at hwrite
      obtain ⟨_, m₂, htarget, hwrite⟩ := bind_eq_ok_iff.mp hwrite
      cases htarget
      obtain ⟨changed, m₃, hchanged, _⟩ := bind_eq_ok_iff.mp hwrite
      exact ⟨loc, _, m', .field hsel hpath hv (ofExcept_eq_ok hchanged).1⟩
    | _ => cases hs
  obtain ⟨loc, change, m', hr⟩ := hrequest
  rw [hr.run] at h
  obtain ⟨host, hchange, rfl⟩ := edited_of_edit h
  exact ⟨loc, change, m', host, hr, hchange, rfl⟩

end Run

/-! ## Edits in a tree -/

section

variable {p : Provision} {patch : Patch} {kinds : Kinds} {d : Description} {l : Nat}
  {env : Environment} {ctx : Context} {s : Statement} {m m' : Machine} {loc : Coordinate}
  {change : Host → Except HostError Host}

/-- The element that an edit is meant for is there. -/
theorem Moment.Reaches.element_lt
    (hμ : Moment.Reaches p (.start p patch (.ofDescription kinds d)) ⟨l, .statement env ctx s, m⟩)
    (hr : Run.Requests p (Run.enterWithin p l) env ctx m s loc change m') :
    m'.Rooted (.ofDescription kinds d) ∧ ctx.element < m'.host.elements.size := by
  have hregistry : p.registry.Every fun _ => True := Registry.every_of (fun _ => trivial) _
  obtain ⟨Y, _, hmachine, hs, _, hctx⟩ := Moment.Reaches.sound (t := .whole p _ hregistry) hμ
    (Moment.sound_start hregistry (Statement.everyIn_of (fun _ => trivial) patch.statements))
  -- The evaluation of the operand leaves the machine in order and in the tree.
  have hev := hr.evolves (Run.enterWithin_keeps (.whole p _ hregistry) l) hctx hs hmachine
  have hrooted : m'.Rooted (.ofDescription kinds d) := by
    refine hev.invariant (J := fun m => m.Rooted (.ofDescription kinds d)) ?_ ?_ hμ.rooted.1
    · exact fun hc hm => hc.rooted (Host.consistent_ofDescription kinds d) trivial hm
    · exact fun _ hm => ⟨hm.reached, hm.root, hm.matched⟩
  have hyielded := hctx trivial (.inl hr.selected)
  exact ⟨hrooted, hrooted.matched _ ((hmachine.evolves hev).matched _ hyielded)⟩

/-- **Which edits are lost.** Whenever an execution on a described tree comes to an edit
statement: if the statement succeeds, it has put an edit of the selected element to the host,
which has accepted it, and the report counts it. What has been deleted itself is refused as
deleted. What is accepted hangs in the tree exactly if no element above it has been deleted. -/
theorem Patch.accepted_edit_attached_iff
    (hμ : Moment.Reaches p (.start p patch (.ofDescription kinds d)) ⟨l, .statement env ctx s, m⟩)
    (hs : s.isEdit = true) :
    (∀ flow m'', Run.runStatement p (Run.enterWithin p l) env ctx s m = .ok flow m'' →
      ∃ loc change m' host, Run.Requests p (Run.enterWithin p l) env ctx m s loc change m' ∧
        change m'.host = .ok host ∧ m'' = m'.edited host) ∧
    ∀ loc change m', Run.Requests p (Run.enterWithin p l) env ctx m s loc change m' →
      ((m'.host.get ctx.element).deleted = true →
        Run.runStatement p (Run.enterWithin p l) env ctx s m =
          .error (.failed ⟨loc, .host (.deleted (m'.host.get ctx.element).describe)⟩) m') ∧
      ∀ host, change m'.host = .ok host →
        (m'.host.Attached ctx.element ↔
          ∀ a, m'.host.Above a ctx.element → (m'.host.get a).deleted = false) := by
  refine ⟨fun flow m'' h => Run.requests_of_ok hs h, fun loc change m' hr => ⟨?_, ?_⟩⟩
  · intro hdeleted
    rw [hr.run, Run.bind_error (Run.edit_error loc change (hr.refused hdeleted))]
  · intro host hchange
    obtain ⟨hrooted, hlt⟩ := hμ.element_lt hr
    have hh := hrooted.reached.consistent (Host.consistent_ofDescription kinds d)
    -- What is accepted has not been deleted itself.
    have hkept : (m'.host.get ctx.element).deleted = false := by
      rw [Bool.eq_false_iff]
      intro hdeleted
      rw [hr.refused hdeleted] at hchange
      cases hchange
    rw [hh.attached_iff hlt]
    exact and_iff_right hkept

end

/-- A patch that deletes `a` and, from the same block, sets each `b` below it. -/
def Draft.pruning : Draft :=
  ⟨.origin, [.selection .origin [] (.ofType .origin "a")
    [.delete .origin,
      .selection .origin [] (.ofType .origin "b") [.set .origin (.boolean .origin true)]]]⟩

/-- On the chain `doc > a > b`, the block of the patch is run against `a`. -/
theorem Patch.pruning_reaches :
    let start := Moment.start ⟨.withActiveMods [], .standard⟩ (.ofDraft .pruning)
      (.ofDescription [] .chain)
    let s : Statement := .set .origin (.literal .origin (.bool true))
    ∃ l env, Moment.Reaches ⟨.withActiveMods [], .standard⟩ start
      ⟨l, .block env ⟨1, true, [1, 0]⟩
        [.delete .origin, .selection .origin [] (.ofType .origin "b") [s]],
        (start.machine.ran.yielded (.ofDescription [] .chain) [1]).opened⟩ := by
  intro start s
  have hresolve : Selector.resolve ⟨.withActiveMods [], .standard⟩ (.ofType .origin "a") 0
      (.ofDescription [] .chain) = (.ok [1], .ofDescription [] .chain) := rfl
  exact ⟨_, _, ((Relation.ReflTransGen.single .firstStatement).tail (.selection rfl hresolve)).tail
    (.visit rfl rfl)⟩

/-- The deletion of `a` is accepted, and `a` hangs in the tree: nothing above it has been
deleted. -/
theorem Patch.accepted_edit_attached_iff_delete :
    let p : Provision := ⟨.withActiveMods [], .standard⟩
    let start := Moment.start p (.ofDraft .pruning) (.ofDescription [] .chain)
    let s : Statement := .delete .origin
    let ctx : Context := ⟨1, true, [1, 0]⟩
    ∃ l env m, Moment.Reaches p start ⟨l, .statement env ctx s, m⟩ ∧ s.isEdit = true ∧
      (∃ host, Run.runStatement p (Run.enterWithin p l) env ctx s m = .ok .next (m.edited host)) ∧
      (m.host.Attached 1 ↔ ∀ a, m.host.Above a 1 → (m.host.get a).deleted = false) := by
  intro p start s ctx
  obtain ⟨l, env, hreaches⟩ := pruning_reaches
  have hμ := hreaches.tail .firstStatement
  have hdelete : ∃ host, (Host.ofDescription [] .chain).delete [1, 0] 1 = .ok host := ⟨_, rfl⟩
  obtain ⟨host, hdelete⟩ := hdelete
  refine ⟨l, env, _, hμ, rfl, ⟨host, ?_⟩, ?_⟩
  · rw [(Run.Requests.delete rfl).run, Run.bind_ok (Run.edit_ok _ _ hdelete)]
    rfl
  · exact ((accepted_edit_attached_iff hμ rfl).2 _ _ _ (.delete rfl)).2 host hdelete

/-- In the chain `doc > a > b`, the block goes on to `b` although `a` has been deleted: the edit
of `b` succeeds and is counted, and `b` hangs in the tree no more. -/
theorem Patch.accepted_edit_unattached :
    let p : Provision := ⟨.withActiveMods [], .standard⟩
    let start := Moment.start p (.ofDraft .pruning) (.ofDescription [] .chain)
    let s : Statement := .set .origin (.literal .origin (.bool true))
    (∃ l env ctx m host, Moment.Reaches p start ⟨l, .statement env ctx s, m⟩ ∧
      Run.runStatement p (Run.enterWithin p l) env ctx s m = .ok .next (m.edited host) ∧
      ¬ m.host.Attached ctx.element) ∧
    ((Patch.ofDraft .pruning).execute p (.ofDescription [] .chain)).1.toOption.map Report.edits =
      some 2 := by
  intro p start s
  -- The tree, and the tree without `a`, in which the second selector still finds `b`.
  let h : Host := .ofDescription [] .chain
  let h' : Host := h.detached 0 1
  have hdelete : h.delete [1, 0] 1 = .ok h' := rfl
  have hresolve : Selector.resolve p (.ofType .origin "b") 1 h' = (.ok [2], h') := rfl
  obtain ⟨l, env, hreaches⟩ := pruning_reaches
  let m : Machine := (start.machine.ran.yielded h [1]).opened
  have hdeletes : Run.runStatement p (Run.enterWithin p l) env ⟨1, true, [1, 0]⟩
      (.delete .origin) m = .ok .next (m.edited h') := by
    rw [(Run.Requests.delete rfl).run, Run.bind_ok (Run.edit_ok _ _ hdelete)]
    rfl
  -- The block inside is run against it.
  let m' : Machine := ((m.edited h').ran.yielded h' [2]).opened
  have hinner : ∃ env, Moment.Reaches p start ⟨l, .statement env ⟨2, true, [2, 1, 0]⟩ s, m'⟩ :=
    ⟨_, ((((hreaches.tail (.otherStatements hdeletes)).tail .firstStatement).tail
      (.selection rfl hresolve)).tail (.visit rfl rfl)).tail .firstStatement⟩
  obtain ⟨env', hinner⟩ := hinner
  have hset : ∃ host, h'.set 2 (.bool true) = .ok host := ⟨_, rfl⟩
  obtain ⟨host, hset⟩ := hset
  refine ⟨⟨l, env', ⟨2, true, [2, 1, 0]⟩, m', host, hinner, ?_, ?_⟩, by decide +kernel⟩
  · rw [(Run.Requests.set rfl rfl).run, Run.bind_ok (Run.edit_ok _ _ hset)]
    rfl
  · have hh := hinner.rooted.1.reached.consistent (Host.consistent_ofDescription [] .chain)
    have hlt : 2 < h'.elements.size := Nat.lt_succ_self 2
    have habove : h'.Above 1 2 := .parent rfl
    have hdeleted : (h'.get 1).deleted = true := rfl
    intro hattached
    have hkept : (h'.get 1).deleted = false := ((hh.attached_iff hlt).mp hattached).2 1 habove
    rw [hdeleted] at hkept
    cases hkept

end Graft
