import Graft.Proofs.Host.Footprint
import Graft.Proofs.Run.Attachment
import Graft.Proofs.Selector.Addition

/-!
What a selection with an addition behind another selector adds.

All matches are known before the first element is added, and no element is matched twice. So each
match gets exactly one new element, which stands behind the children that the match has had, and
what is added is not looked at again: it is no match, whatever the selector says of it. Apart from
the matches, nothing that was there changes.
-/

set_option autoImplicit false

namespace Graft

namespace Host

/-- A host in which each of these elements has got one new element behind its children, in turn,
and which is the same otherwise. -/
structure Sprouted (tag : String) (v : Value) (ids : List ElementId) (h h' : Host) : Prop where
  size : h'.elements.size = h.elements.size + ids.length
  pair : ∀ id new, (id, new) ∈ ids.zip (List.range' h.elements.size ids.length) →
    h'.get id = { h.get id with children := (h.get id).children ++ [new], modified := true } ∧
      h'.get new = seedling id tag v
  other : ∀ id, id < h.elements.size → id ∉ ids → h'.get id = h.get id

section

variable {h h' : Host} {id other : ElementId} {tag : String} {v : Value}

/-- One more element gets a new one before the others do. -/
theorem Sprouted.cons {ids : List ElementId} (hid : id < h.elements.size) (hnew : id ∉ ids)
    (hids : ∀ other ∈ ids, other < h.elements.size)
    (hs : Sprouted tag v ids (h.grown id (seedling id tag v)) h') :
    Sprouted tag v (id :: ids) h h' := by
  obtain ⟨hsize, hpair, hother⟩ := hs
  rw [size_grown] at hsize hpair hother
  refine ⟨?size, fun other new hmem => ?pair, fun other hlt hmem => ?other⟩
  case size =>
    rw [hsize, List.length_cons]
    omega
  case pair =>
    rw [List.length_cons, List.range'_succ, List.zip_cons_cons, List.mem_cons] at hmem
    rcases hmem with heq | hmem
    · -- The first element is not among the others, and neither is the one that it has got.
      obtain ⟨rfl, rfl⟩ := Prod.mk.inj heq
      have hfresh : h.elements.size ∉ ids := fun hin => Nat.lt_irrefl _ (hids _ hin)
      rw [hother _ (Nat.lt_succ_of_lt hid) hnew, hother _ (Nat.lt_succ_self _) hfresh]
      exact ⟨get_grown _ hid, get_grown_new _ hid⟩
    · have hin : other ∈ ids := (List.of_mem_zip hmem).1
      have hne : id ≠ other := fun he => hnew (he ▸ hin)
      rw [← get_grown_other (seedling id tag v) (hids other hin) hne]
      exact hpair other new hmem
  case other =>
    rw [List.mem_cons, not_or] at hmem
    rw [hother other (Nat.lt_succ_of_lt hlt) hmem.2]
    exact get_grown_other _ hlt (Ne.symm hmem.1)

end

end Host

namespace Selector

/-- **Additions in turn.** Different elements that may be edited get one new element each. -/
theorem addToEach_sprouted {tag : String} {v : Value} : ∀ (ids : List ElementId) {h : Host},
    ids.Nodup → (∀ id ∈ ids, id < h.elements.size ∧ h.checkEditable id = .ok ()) →
    Table.get? h.kinds tag = some v →
    ∃ h', addToEach tag ids h = (.ok (List.range' h.elements.size ids.length), h') ∧
      Host.Sprouted tag v ids h h'
  | [], h, _, _, _ =>
    ⟨h, rfl, rfl, fun _ _ hmem => absurd hmem List.not_mem_nil, fun _ _ _ => rfl⟩
  | id :: rest, h, hnodup, hids, hkind => by
    obtain ⟨hnew, hrest⟩ := List.nodup_cons.mp hnodup
    obtain ⟨hid, heditable⟩ := hids id List.mem_cons_self
    have hothers : ∀ other ∈ rest, other < h.elements.size := fun other hin =>
      (hids other (List.mem_cons_of_mem _ hin)).1
    -- The first addition leaves the others as they were, so they may still be edited.
    have hstill : ∀ other ∈ rest,
        other < (h.grown id (Host.seedling id tag v)).elements.size ∧
          (h.grown id (Host.seedling id tag v)).checkEditable other = .ok () := by
      intro other hin
      have hne : id ≠ other := fun he => hnew (he ▸ hin)
      refine ⟨?_, ?_⟩
      · rw [Host.size_grown]
        exact Nat.lt_succ_of_lt (hothers other hin)
      · rw [Host.checkEditable, Host.get_grown_other _ (hothers other hin) hne]
        exact (hids other (List.mem_cons_of_mem _ hin)).2
    obtain ⟨h', hadded, hsprouted⟩ := addToEach_sprouted rest hrest hstill hkind
    refine ⟨h', ?_, hsprouted.cons hid hnew hothers⟩
    rw [addToEach, Host.add_eq_grown heditable hkind]
    simp only [hadded, Host.size_grown]
    rfl

/-- No element is matched twice. -/
theorem nodup_enumerate {h : Host} (hh : h.Consistent) {scope : ElementId}
    (hscope : scope < h.elements.size) {rulesets : Table Selector} {limit : Nat} {s : Selector}
    {ids : List ElementId} (hids : s.enumerate rulesets limit (h.snapshot scope) = .ok ids) :
    ids.Nodup := by
  obtain ⟨walk, hw, hshown⟩ := hh.ids_snapshot hscope
  have hwalk : (walk.map Prod.snd).Nodup :=
    hh.nodup_walk hw (hh.nodup_children scope) fun c hc => (hh.mem_children_iff.mp hc).2.1
  have hsublist := enumerate_sublist hids
  generalize h.snapshot scope = tree at hshown hsublist
  obtain ⟨top, e, children⟩ := tree
  rw [Snapshot.ids] at hshown
  rw [Snapshot.children, (List.cons.inj hshown).2] at hsublist
  exact hsublist.nodup hwalk

/-- **One new element for each match.** In every host that operations make from that of a described
tree, let a selector without additions yield elements below a scope that may all be edited, and let
the kind of an addition be registered. Then the addition behind this selector yields as many new
elements, in the order of the matches and different from them. Each of them has the kind's initial
value, no name and no classes, and stands as the last child of its match, which is marked. Nothing
else that was there has changed, and nothing else is new. -/
theorem select_child_addition {kinds : Kinds} {d : Description} {h : Host}
    (hr : Host.Reached (Host.ofDescription kinds d) h) {scope : ElementId}
    (hscope : scope < h.elements.size) (rulesets : Table Selector) (limit : Nat)
    (loc loc' : Coordinate) {s : Selector} (hs : s.additions = []) {tag : String} {v : Value}
    (hkind : Table.get? h.kinds tag = some v) {ids : List ElementId}
    (hids : s.enumerate rulesets limit (h.snapshot scope) = .ok ids)
    (heditable : ∀ id ∈ ids, h.checkEditable id = .ok ()) :
    ∃ news h', (child loc s (addition loc' tag)).select rulesets limit scope h = (.ok news, h') ∧
      ids.Nodup ∧ news = List.range' h.elements.size ids.length ∧
      h'.elements.size = h.elements.size + ids.length ∧ (∀ new ∈ news, new ∉ ids) ∧
      (∀ id new, (id, new) ∈ ids.zip news →
        h'.get id =
            { h.get id with children := (h.get id).children ++ [new], modified := true } ∧
          h'.get new =
            { type := tag, name := none, classes := [], value := v, parent := some id,
              children := [], modified := true, deleted := false, readOnly := false }) ∧
      ∀ id, id < h.elements.size → id ∉ ids → h'.get id = h.get id := by
  have hh := hr.consistent (Host.consistent_ofDescription kinds d)
  have hnodup := nodup_enumerate hh hscope hids
  have hlt := hh.lt_of_mem_enumerate hscope hids
  obtain ⟨h', hadded, hsize, hpair, hother⟩ :=
    addToEach_sprouted ids hnodup (fun id hid => ⟨hlt id hid, heditable id hid⟩) hkind
  refine ⟨_, h', ?_, hnodup, rfl, hsize, fun new hnew hin => ?_, hpair, hother⟩
  · -- The matches are known before anything is added.
    rw [select, checkNoAddition_eq, hs, hids]
    exact hadded
  · exact Nat.not_lt.mpr (List.mem_range'_1.mp hnew).1 (hlt new hin)

/-- In the tree `doc > a > a`, each `a` gets one `a`, although the first stands above the second
and both of the new ones are matches afterwards. -/
theorem select_child_addition_nested :
    let inner : Description := .mk "a" none [] .null [] false
    let start := Host.ofDescription [("a", .int 7)]
      (.mk "doc" none [] .null [.mk "a" (some "outer") [] .null [inner] false] false)
    let s : Selector := .ofType .origin "a"
    ∃ h', (child .origin s (addition .origin "a")).select [] 16 0 start = (.ok [3, 4], h') ∧
      (h'.get 1).children = [2, 3] ∧ (h'.get 2).children = [4] ∧ (h'.get 3).value = .int 7 ∧
      h'.get 0 = start.get 0 ∧
      (s.enumerate [] 16 (h'.snapshot 0)).toOption = some [1, 2, 4, 3] := by
  intro inner start s
  have hkind : Table.get? start.kinds "a" = some (.int 7) := rfl
  have hids : s.enumerate [] 16 (start.snapshot 0) = .ok [1, 2] := rfl
  have heditable : ∀ id ∈ [1, 2], start.checkEditable id = .ok () := by
    intro id hid
    rcases List.mem_pair.mp hid with rfl | rfl <;> rfl
  obtain ⟨news, h', hselect, _, rfl, _, _, hpair, hother⟩ :=
    select_child_addition .start (by decide) [] 16 .origin .origin rfl hkind hids heditable
  have hh' : h' = ((child .origin s (addition .origin "a")).select [] 16 0 start).2 :=
    (congrArg Prod.snd hselect).symm
  refine ⟨h', hselect, ?_, ?_, ?_, hother 0 (by decide) (by decide), ?_⟩
  · rw [(hpair 1 3 (by decide)).1]
    rfl
  · rw [(hpair 2 4 (by decide)).1]
    rfl
  · rw [(hpair 1 3 (by decide)).2]
  · rw [hh']
    decide +kernel

end Selector

end Graft
