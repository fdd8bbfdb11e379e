import Graft.Proofs.Host.Loaded
import Graft.Proofs.Run.Evolution
import Graft.Proofs.Selector.Enumerate

/-!
Deletion by a selection, and when it is refused.

A block that deletes what it selects goes through its matches in pre-order. While it is at
one of them, it holds that element, the matches still to come, and the root; those it has
gone through are released. So a match is still below the root as long as nothing above it was
deleted before. A match below another one comes later than that, when the other one is gone
and nothing that is held keeps it: it has no parent any more, and its deletion is refused in
the way the deletion of the root is.
-/

set_option autoImplicit false

namespace Graft

namespace Host

/-- A host from which some elements have been deleted, and which is in all else that deletions
look at as it was in the beginning. -/
structure Pruned (start : Host) (gone : List ElementId) (h : Host) : Prop where
  size : h.elements.size = start.elements.size
  parent : ∀ id, (h.get id).parent = (start.get id).parent
  readOnly : ∀ id, (h.get id).readOnly = (start.get id).readOnly
  deleted : ∀ id, (h.get id).deleted = true ↔ id ∈ gone

theorem above_congr {g h : Host} (hparent : ∀ id, (h.get id).parent = (g.get id).parent)
    {q id : ElementId} (ha : h.Above q id) : g.Above q id := by
  induction ha with
  | parent hp =>
    rw [hparent] at hp
    exact .parent hp
  | step hp _ ih =>
    rw [hparent] at hp
    exact .step hp ih

namespace Pruned

variable {start h : Host} {gone held : List ElementId} {id : ElementId}

theorem refl (hstart : start.Pristine) : start.Pruned [] start where
  size := rfl
  parent _ := rfl
  readOnly _ := rfl
  deleted id := by simp [hstart.deleted id]

theorem above_iff (hh : start.Pruned gone h) {q : ElementId} :
    h.Above q id ↔ start.Above q id :=
  ⟨above_congr hh.parent, above_congr fun id => (hh.parent id).symm⟩

theorem ordered (hh : start.Pruned gone h) (hstart : start.Ordered) : h.Ordered :=
  fun id p hp => hstart id p (hh.parent id ▸ hp)

theorem checkEditable (hh : start.Pruned gone h) (hstart : start.Pristine) (hid : id ∉ gone) :
    h.checkEditable id = .ok () := by
  refine checkEditable_eq_ok_iff.mpr ⟨?_, ?_⟩
  · rw [← Bool.not_eq_true, hh.deleted]
    exact hid
  · rw [hh.readOnly, hstart.readOnly]

theorem detached (hh : start.Pruned gone h) (hid : id < start.elements.size) (p : ElementId) :
    start.Pruned (id :: gone) (h.detached p id) where
  size := by
    rw [Host.detached, size_update, size_update]
    exact hh.size
  parent other := by
    unfold Host.detached
    rw [field_update _ _ _ (f := Element.parent), field_update _ _ _ (f := Element.parent)]
    · exact hh.parent other
    · exact fun _ => rfl
    · exact fun _ => rfl
  readOnly other := by
    unfold Host.detached
    rw [field_update _ _ _ (f := Element.readOnly),
      field_update _ _ _ (f := Element.readOnly)]
    · exact hh.readOnly other
    · exact fun _ => rfl
    · exact fun _ => rfl
  deleted other := by
    unfold Host.detached
    rw [get_update _ _ _ _ (by rw [size_update, hh.size]; exact hid)]
    by_cases he : id = other
    · simp [he]
    · rw [if_neg he, field_update _ _ _ (f := Element.deleted), hh.deleted]
      · simp [Ne.symm he]
      · exact fun _ => rfl

/-- A match below an element that is gone is refused: what is held is the root, with that
element in between, or nothing above the match. -/
theorem delete_refused (hh : start.Pruned gone h) (hstart : start.Pristine)
    (hordered : start.Ordered) (hid : id ∉ gone) (hheld : ∀ q ∈ held, q = root ∨ id ≤ q)
    (hgone : ∀ a ∈ gone, a ≠ root ∧ a < start.elements.size)
    (habove : ∃ a ∈ gone, start.Above a id) : h.delete held id = .error .rootDeletion := by
  refine (delete_eq_rootDeletion_iff (hh.ordered hordered)
    (hh.checkEditable hstart hid)).mpr fun q hq hkeeps => ?_
  obtain ⟨a, ha, haid⟩ := habove
  rcases hheld q hq with rfl | hle
  · -- The root is above the match, but what is gone stands in between.
    obtain ⟨hne, hlt⟩ := hgone a ha
    have hroot := hh.above_iff.mpr (hstart.above_root hordered a hlt hne)
    have hdeleted := hkeeps.2 a hroot (hh.above_iff.mpr haid)
    rw [(hh.deleted a).mpr ha] at hdeleted
    cases hdeleted
  · -- What comes later is not above the match.
    exact absurd (hkeeps.1.lt (hh.ordered hordered)) (Nat.not_lt.mpr hle)

/-- A match below nothing that is gone is deleted: the root keeps it. -/
theorem delete_accepted (hh : start.Pruned gone h) (hstart : start.Pristine)
    (hordered : start.Ordered) (hid : id ∉ gone) (hroot : root ∈ held) (hne : id ≠ root)
    (hlt : id < start.elements.size) (habove : ¬ ∃ a ∈ gone, start.Above a id) :
    ∃ h', h.delete held id = .ok h' ∧ start.Pruned (id :: gone) h' := by
  have hkeeps : h.Keeps root id := by
    refine ⟨hh.above_iff.mpr (hstart.above_root hordered id hlt hne), fun a _ haid => ?_⟩
    rw [← Bool.not_eq_true, hh.deleted]
    exact fun ha => habove ⟨a, ha, hh.above_iff.mp haid⟩
  cases hp : h.parent? held id with
  | none =>
    exact absurd hkeeps ((parent?_eq_none_iff (hh.ordered hordered) held id).mp hp root hroot)
  | some p =>
    exact ⟨h.detached p id,
      delete_eq_ok_iff.mpr ⟨hh.checkEditable hstart hid, p, hp, rfl⟩, hh.detached hlt p⟩

end Pruned

end Host

/-! ## The run of a block that deletes -/

namespace Run

/-- The body `@delete` at one element: the deletion in a frame of its own. -/
theorem visitBody_delete (p : Provision) (enter : Enter) (env : Environment) (loc : Coordinate)
    (id : ElementId) (held : List ElementId) (m : Machine) :
    visitBody p enter env [.delete loc] ⟨id, true, held⟩ m =
      match m.host.delete held id with
      | .ok host => .ok () (m.opened.edited host)
      | .error e => .error (.failed ⟨loc, .host e⟩) m.opened := by
  -- The frame, the block and the statement around the deletion only pass on how it ends.
  let scope : Environment := ⟨env.global, m.frames.size :: env.inner⟩
  let ctx : Context := ⟨id, true, held⟩
  have hchild : child env m = .ok scope m.opened := rfl
  rw [visitBody, bind_ok hchild]
  cases hd : m.host.delete held id with
  | ok host =>
    have hdelete : deleteElement ctx loc m.opened = .ok () (m.opened.edited host) :=
      edit_ok loc (fun h => h.delete held id) hd
    have hstatement : runStatement p enter scope ctx (.delete loc) m.opened =
        .ok .next (m.opened.edited host) := bind_ok hdelete
    have hblock : runBlock p enter scope ctx [.delete loc] m.opened =
        .ok .next (m.opened.edited host) := bind_ok hstatement
    exact bind_ok hblock
  | error e =>
    have hdelete : deleteElement ctx loc m.opened = .error (.failed ⟨loc, .host e⟩) m.opened :=
      edit_error loc (fun h => h.delete held id) hd
    have hstatement : runStatement p enter scope ctx (.delete loc) m.opened =
        .error (.failed ⟨loc, .host e⟩) m.opened := bind_error hdelete
    have hblock : runBlock p enter scope ctx [.delete loc] m.opened =
        .error (.failed ⟨loc, .host e⟩) m.opened := bind_error hstatement
    exact bind_error hblock

end Run

/-- A match that is above another one, told from the first match on: what is above the first
comes before it, and so is gone already. -/
theorem Host.nested_cons_iff {start : Host} (hordered : start.Ordered) {gone rest : List ElementId}
    {id : ElementId} (hfirst : ∀ b ∈ rest, id < b) :
    (∃ a ∈ gone ++ id :: rest, ∃ b ∈ id :: rest, start.Above a b) ↔
      (∃ a ∈ gone, start.Above a id) ∨
        ∃ a ∈ (id :: gone) ++ rest, ∃ b ∈ rest, start.Above a b := by
  constructor
  · rintro ⟨a, ha, b, hb, hab⟩
    rcases List.mem_cons.mp hb with rfl | hb
    · refine .inl ⟨a, ?_, hab⟩
      have hlt := hab.lt hordered
      rcases List.mem_append.mp ha with ha | ha
      · exact ha
      · rcases List.mem_cons.mp ha with rfl | ha
        · exact absurd hlt (Nat.lt_irrefl _)
        · exact absurd hlt (Nat.lt_asymm (hfirst a ha))
    · refine .inr ⟨a, ?_, b, hb, hab⟩
      simpa [or_left_comm] using ha
  · rintro (⟨a, ha, hab⟩ | ⟨a, ha, b, hb, hab⟩)
    · exact ⟨a, List.mem_append_left _ ha, id, List.mem_cons_self, hab⟩
    · exact ⟨a, by simpa [or_left_comm] using ha, b, List.mem_cons_of_mem _ hb, hab⟩

section

variable {start : Host} (hstart : start.Pristine) (hordered : start.Ordered)

include hstart hordered

/-- Going through matches in pre-order: it fails at the first that is below an element that is
gone, and deletes all of them if there is no such match. -/
theorem Run.forMatches_delete (p : Provision) (enter : Enter) (env : Environment)
    (loc dloc : Coordinate) : ∀ (ids gone : List ElementId) (m : Machine),
    start.Pruned gone m.host → ids.Pairwise (· < ·) → (∀ a ∈ gone, ∀ id ∈ ids, a < id) →
    (∀ a ∈ gone ++ ids, a ≠ Host.root ∧ a < start.elements.size) →
    ((∃ a ∈ gone ++ ids, ∃ b ∈ ids, start.Above a b) → ∃ m',
      forMatches loc ⟨Host.root, false, [Host.root]⟩ (visitBody p enter env [.delete dloc]) ids m =
        .error (.failed ⟨dloc, .host .rootDeletion⟩) m') ∧
    ((¬ ∃ a ∈ gone ++ ids, ∃ b ∈ ids, start.Above a b) → ∃ m',
      forMatches loc ⟨Host.root, false, [Host.root]⟩ (visitBody p enter env [.delete dloc]) ids m =
        .ok () m' ∧ m'.report = { m.report with edits := m.report.edits + ids.length })
  | [], _, m, _, _, _, _ => by
    refine ⟨?_, fun _ => ⟨m, rfl, rfl⟩⟩
    rintro ⟨_, _, b, hb, _⟩
    cases hb
  | id :: rest, gone, m, hm, hsorted, hbefore, hin => by
    obtain ⟨hfirst, hrest⟩ := List.pairwise_cons.mp hsorted
    have hid : id ∉ gone := fun h => Nat.lt_irrefl _ (hbefore id h id List.mem_cons_self)
    have hinid := hin id (by simp)
    have hcheck := hm.checkEditable hstart hid
    -- While the loop is at a match, it holds the match, those to come, and the root.
    let held := id :: rest ++ [Host.root]
    have hroot : Host.root ∈ held := List.mem_append_right _ List.mem_cons_self
    have hheld : ∀ q ∈ held, q = Host.root ∨ id ≤ q := by
      intro q hq
      rcases List.mem_append.mp hq with hq | hq
      · rcases List.mem_cons.mp hq with rfl | hq
        · exact .inr (Nat.le_refl _)
        · exact .inr (Nat.le_of_lt (hfirst q hq))
      · exact .inl (List.mem_singleton.mp hq)
    rw [Host.nested_cons_iff hordered hfirst, Run.forMatches_cons hcheck]
    have hvisit := Run.visitBody_delete p enter env dloc id held m
    by_cases habove : ∃ a ∈ gone, start.Above a id
    · have hd := hm.delete_refused hstart hordered hid hheld
        (fun a ha => hin a (List.mem_append_left _ ha)) habove
      rw [hd] at hvisit
      exact ⟨fun _ => ⟨_, Run.bind_error hvisit⟩, fun hn => absurd (.inl habove) hn⟩
    · obtain ⟨host, hd, hpruned⟩ := hm.delete_accepted hstart hordered hid hroot
        hinid.1 hinid.2 habove
      rw [hd] at hvisit
      -- From here on the match is gone as well.
      have ih := Run.forMatches_delete p enter env loc dloc rest (id :: gone)
        (m.opened.edited host) hpruned hrest
        (fun a ha b hb => by
          rcases List.mem_cons.mp ha with rfl | ha
          · exact hfirst b hb
          · exact hbefore a ha b (List.mem_cons_of_mem _ hb))
        (fun a ha => hin a (by simpa [or_left_comm] using ha))
      rw [Run.bind_ok hvisit]
      refine ⟨fun hn => ih.1 (hn.resolve_left habove), fun hn => ?_⟩
      obtain ⟨m', hm', hreport⟩ := ih.2 fun h => hn (.inr h)
      refine ⟨m', hm', ?_⟩
      rw [hreport]
      simp only [Machine.edited, Machine.opened, List.length_cons, Nat.add_assoc, Nat.add_comm 1]

end

/-! ## The patch that deletes what it selects -/

/-- The patch of a single block that deletes what its selector yields. -/
def Patch.deleting (s : Selector) (loc dloc : Coordinate) : Patch :=
  ⟨loc, [.selection loc [] s [.delete dloc]], false⟩

/-- What a selector enumerates in a loaded tree is in pre-order, and strictly below the root. -/
theorem Selector.enumerate_ofDescription {kinds : Kinds} {d : Description} {s : Selector}
    {rulesets : Table Selector} {limit : Nat} {ids : List ElementId}
    (h : s.enumerate rulesets limit ((Host.ofDescription kinds d).snapshot Host.root) = .ok ids) :
    ids.Pairwise (· < ·) ∧
      ∀ id ∈ ids, id ≠ Host.root ∧ id < (Host.ofDescription kinds d).elements.size := by
  have hids := Host.ids_snapshot_ofDescription kinds d
  have hsublist := Selector.enumerate_sublist h
  rw [Host.size_ofDescription]
  generalize (Host.ofDescription kinds d).snapshot Host.root = tree at hids hsublist
  obtain ⟨id, e, children⟩ := tree
  -- The topmost number is that of the root, and all others come behind it.
  cases hcount : d.count with
  | zero =>
    rw [hcount] at hids
    cases hids
  | succ n =>
    rw [hcount, List.range'_succ] at hids
    have hbelow : Snapshot.idsOf children = List.range' (Host.root + 1) n := (List.cons.inj hids).2
    simp only [Snapshot.children] at hsublist
    rw [hbelow] at hsublist
    refine ⟨(List.pairwise_lt_range' (s := Host.root + 1)).sublist hsublist, fun id hid => ?_⟩
    have hmem := List.mem_range'_1.mp (hsublist.subset hid)
    rw [Host.root, Nat.zero_add, Nat.add_comm 1] at hmem
    exact ⟨Nat.ne_of_gt hmem.1, hmem.2⟩

/-- A root with one element below it and another below that. -/
def Description.chain : Description :=
  .mk "doc" none [] .null [.mk "a" none [] .null [.mk "b" none [] .null [] false] false] false

namespace Patch

variable {p : Provision} {s : Selector} {loc dloc : Coordinate}

/-- Where the block is not to run, nothing is done but to count it. -/
theorem execute_deleting_of_unwanted (hwanted : ¬ Run.isWanted p [] false = true) (h : Host) :
    ((deleting s loc dloc).execute p h).1 = .ok { Report.blank with blocksSkipped := 1 } := by
  let enter := Run.enterWithin p (p.settings.limits.maxCallDepth + 1)
  let ctx : Context := ⟨Host.root, false, [Host.root]⟩
  have hstatement : Run.runStatement p enter (Machine.start h).1 ctx
      (.selection loc [] s [.delete dloc]) (Machine.start h).2 =
        .ok .next (Machine.start h).2.skipped := Run.bind_ok (Run.select_unwanted _ _ _ _ hwanted _)
  have hblock : Run.runBlock p enter (Machine.start h).1 ctx
      [.selection loc [] s [.delete dloc]] (Machine.start h).2 =
        .ok .next (Machine.start h).2.skipped := Run.bind_ok hstatement
  simp only [execute, deleting]
  rw [hblock]
  rfl

/-- Where the block is to run, its outcome is that of going through the matches. -/
theorem execute_deleting_of_wanted (hwanted : Run.isWanted p [] false = true) (h : Host)
    {ids : List ElementId} (hselect : s.resolve p Host.root h = (.ok ids, h)) :
    ((deleting s loc dloc).execute p h).1 =
      match Run.forMatches loc ⟨Host.root, false, [Host.root]⟩
        (Run.visitBody p (Run.enterWithin p (p.settings.limits.maxCallDepth + 1))
          (Machine.start h).1 [.delete dloc]) ids ((Machine.start h).2.ran.yielded h ids) with
      | .ok _ m => .ok m.report
      | .error halt _ => .error halt := by
  let enter := Run.enterWithin p (p.settings.limits.maxCallDepth + 1)
  let ctx : Context := ⟨Host.root, false, [Host.root]⟩
  have hrun := Run.select_wanted ctx loc s
    (Run.visitBody p enter (Machine.start h).1 [.delete dloc]) hwanted (Machine.start h).2
  have hresolve : s.resolve p ctx.element (Machine.start h).2.host = (.ok ids, h) := hselect
  rw [hresolve] at hrun
  dsimp only at hrun
  cases hmatches : Run.forMatches loc ctx (Run.visitBody p enter (Machine.start h).1 [.delete dloc])
      ids ((Machine.start h).2.ran.yielded h ids) with
  | ok u m =>
    have hstatement : Run.runStatement p enter (Machine.start h).1 ctx
        (.selection loc [] s [.delete dloc]) (Machine.start h).2 = .ok .next m :=
      Run.bind_ok (hrun.trans hmatches)
    have hblock : Run.runBlock p enter (Machine.start h).1 ctx
        [.selection loc [] s [.delete dloc]] (Machine.start h).2 = .ok .next m :=
      Run.bind_ok hstatement
    simp only [execute, deleting]
    rw [hblock]
  | error halt m =>
    have hstatement : Run.runStatement p enter (Machine.start h).1 ctx
        (.selection loc [] s [.delete dloc]) (Machine.start h).2 = .error halt m :=
      Run.bind_error (hrun.trans hmatches)
    have hblock : Run.runBlock p enter (Machine.start h).1 ctx
        [.selection loc [] s [.delete dloc]] (Machine.start h).2 = .error halt m :=
      Run.bind_error hstatement
    simp only [execute, deleting]
    rw [hblock]

open Classical in
/-- **When deletion is refused as that of the root.** On every host that operations make of a
described tree, the deletion of an element that may be edited is refused in this way exactly
if nothing that is held keeps the element: neither the root nor any other element above it is
held without a deleted element in between. In particular, a single block that deletes what a
plain selector yields in a tree without read-only elements fails in this way exactly if it
yields an element and another one below it, and otherwise deletes all that it yields. -/
theorem deletion_refused_iff_unkept (kinds : Kinds) (d : Description) :
    (∀ h, Host.Reached (.ofDescription kinds d) h → ∀ (held : List ElementId) (id : ElementId),
      h.checkEditable id = .ok () →
      (h.delete held id = .error .rootDeletion ↔ ∀ q ∈ held, ¬ h.Keeps q id)) ∧
    (d.Writable → ∀ (p : Provision) (s : Selector) (loc dloc : Coordinate), s.Plain →
      ∃ ids, s.enumerate p.registry.rulesets p.settings.limits.maxRulesetDepth
          ((Host.ofDescription kinds d).snapshot Host.root) = .ok ids ∧
        ((deleting s loc dloc).execute p (.ofDescription kinds d)).1 =
          if Run.isWanted p [] false = true then
            if ∃ a ∈ ids, ∃ b ∈ ids, (Host.ofDescription kinds d).Above a b then
              .error (.failed ⟨dloc, .host .rootDeletion⟩)
            else .ok ⟨[], 1, 0, ids.reverse, ids.length⟩
          else .ok { Report.blank with blocksSkipped := 1 }) := by
  have hordered := Host.ordered_ofDescription kinds d
  refine ⟨fun h hr held id hid => Host.delete_eq_rootDeletion_iff (hr.ordered hordered) hid,
    fun hd p s loc dloc hs => ?_⟩
  -- A plain selector has an answer, which is what the block goes through.
  obtain ⟨ids, hids⟩ := hs.enumerate p.registry.rulesets p.settings.limits.maxRulesetDepth
    ((Host.ofDescription kinds d).snapshot Host.root)
  refine ⟨ids, hids, ?_⟩
  by_cases hwanted : Run.isWanted p [] false = true
  · have hselect : s.resolve p Host.root (.ofDescription kinds d) =
        (.ok ids, .ofDescription kinds d) := by
      rw [Selector.resolve, hs.select, hids]
    have hstart := Host.pristine_ofDescription kinds d hd
    obtain ⟨hsorted, hin⟩ := Selector.enumerate_ofDescription hids
    have hmatches := Run.forMatches_delete hstart hordered p
      (Run.enterWithin p (p.settings.limits.maxCallDepth + 1))
      (Machine.start (.ofDescription kinds d)).1 loc dloc ids []
      ((Machine.start (.ofDescription kinds d)).2.ran.yielded (.ofDescription kinds d) ids)
      (.refl hstart) hsorted (fun _ h => by cases h) hin
    rw [if_pos hwanted, execute_deleting_of_wanted hwanted _ hselect]
    by_cases hnested : ∃ a ∈ ids, ∃ b ∈ ids, (Host.ofDescription kinds d).Above a b
    · obtain ⟨m', hm'⟩ := hmatches.1 hnested
      rw [if_pos hnested, hm']
    · obtain ⟨m', hm', hreport⟩ := hmatches.2 hnested
      rw [if_neg hnested, hm']
      simp only [hreport, Machine.yielded, Machine.ran, Machine.start, Report.blank,
        List.append_nil, Nat.zero_add]
  · rw [if_neg hwanted]
    exact execute_deleting_of_unwanted hwanted _

open Classical in
/-- In a chain of three, the middle element may be deleted while the root is held, and a block
that deletes every element fails or succeeds by what it yields. -/
theorem deletion_refused_iff_unkept_chain :
    let h := Host.ofDescription [] .chain
    let p : Provision := ⟨.withActiveMods [], .standard⟩
    let s : Selector := .wildcard .origin
    (h.checkEditable 1 = .ok () ∧
      (h.delete [1, 0] 1 = .error .rootDeletion ↔ ∀ q ∈ [1, 0], ¬ h.Keeps q 1)) ∧
    Description.chain.Writable ∧ s.Plain ∧
    ∃ ids, s.enumerate [] p.settings.limits.maxRulesetDepth (h.snapshot Host.root) = .ok ids ∧
      ((deleting s .origin .origin).execute p h).1 =
        if Run.isWanted p [] false = true then
          if ∃ a ∈ ids, ∃ b ∈ ids, h.Above a b then
            .error (.failed ⟨.origin, .host .rootDeletion⟩)
          else .ok ⟨[], 1, 0, ids.reverse, ids.length⟩
        else .ok { Report.blank with blocksSkipped := 1 } :=
  ⟨⟨rfl, (deletion_refused_iff_unkept [] .chain).1 _ .start [1, 0] 1 rfl⟩,
    ⟨rfl, ⟨rfl, ⟨rfl, trivial⟩, trivial⟩, trivial⟩, trivial,
    (deletion_refused_iff_unkept [] .chain).2 ⟨rfl, ⟨rfl, ⟨rfl, trivial⟩, trivial⟩, trivial⟩
      ⟨.withActiveMods [], .standard⟩ (.wildcard .origin) .origin .origin trivial⟩

/-- In the same chain, a block that deletes every element fails at the lowest one, which is
not the root: its deletion is refused as that of the root once the middle one is gone and no
longer held. -/
theorem deletion_refused_below_deleted :
    let h := Host.ofDescription [] .chain
    let p : Provision := ⟨.withActiveMods [], .standard⟩
    ((deleting (.wildcard .origin) .origin .origin).execute p h).1 =
      .error (.failed ⟨.origin, .host .rootDeletion⟩) ∧
    ∃ h', h.delete [1, 2, 0] 1 = .ok h' ∧ h'.checkEditable 2 = .ok () ∧
      (2 : ElementId) ≠ Host.root ∧ h'.delete [2, 0] 2 = .error .rootDeletion :=
  ⟨rfl, _, rfl, rfl, by decide, rfl⟩

end Patch

end Graft
