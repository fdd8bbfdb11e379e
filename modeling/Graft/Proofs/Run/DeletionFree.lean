import Graft.Proofs.Host.Loaded
import Graft.Proofs.Run.Moment
import Graft.Proofs.Value.DeletionFree

/-!
Removal markers are never stored.

A patch may compute with removal markers as with any other value, and write, merge and set
values that are full of them. No element of the host ever holds one. The invariant is that
the values of all elements and the values that new elements start with have no markers; it
is preserved by every operation on the host that the interpreter makes, so it holds at every
moment of an execution.
-/

set_option autoImplicit false

namespace Graft

/-- No removal marker occurs in the value of an element, nor in the value that an element of
some kind would start with. -/
structure Host.DeletionFree (h : Host) : Prop where
  values : ∀ id, (h.get id).value.DeletionFree
  kinds : ∀ {tag : String} {v : Value}, Table.get? h.kinds tag = some v → v.DeletionFree

/-! ## Operations on the host -/

namespace Host

namespace DeletionFree

variable {h h' : Host}

theorem update (hh : h.DeletionFree) (id : ElementId) {change : Element → Element}
    (hchange : ∀ e : Element, e.value.DeletionFree → (change e).value.DeletionFree) :
    (h.update id change).DeletionFree := by
  by_cases hid : id < h.elements.size
  · refine ⟨fun other => ?_, fun hv => hh.kinds hv⟩
    rw [get_update h id other change hid]
    split
    · exact hchange _ (hh.values other)
    · exact hh.values other
  · rw [update_of_size_le (Nat.not_lt.mp hid)]
    exact hh

theorem push (hh : h.DeletionFree) {e : Element} (he : e.value.DeletionFree) :
    (h.push e).2.DeletionFree := by
  refine ⟨fun other => ?_, fun hv => hh.kinds hv⟩
  rw [get_push]
  split
  · exact he
  · exact hh.values other

theorem set (hh : h.DeletionFree) {id : ElementId} {v : Value} (hv : v.DeletionFree)
    (hset : h.set id v = .ok h') : h'.DeletionFree := by
  obtain ⟨_, rfl⟩ := set_eq_ok_iff.mp hset
  exact hh.update id fun _ _ => hv

theorem merge (hh : h.DeletionFree) {id : ElementId} {v : Value}
    (hmerge : h.merge id v = .ok h') : h'.DeletionFree := by
  obtain ⟨_, rfl⟩ := merge_eq_ok_iff.mp hmerge
  exact hh.update id fun _ he => Value.deletionFree_merge v he

theorem delete (hh : h.DeletionFree) {held : List ElementId} {id : ElementId}
    (hdelete : h.delete held id = .ok h') : h'.DeletionFree := by
  obtain ⟨_, parent, _, rfl⟩ := delete_eq_ok_iff.mp hdelete
  have hparent : (h.update parent fun e =>
      { e with children := e.children.filter (· != id), modified := true }).DeletionFree :=
    hh.update parent fun _ he => he
  exact hparent.update id fun _ he => he

theorem add (hh : h.DeletionFree) {id child : ElementId} {tag : String}
    (hadd : h.add id tag = .ok (child, h')) : h'.DeletionFree := by
  obtain ⟨_, _, v, hv, rfl⟩ := add_eq_ok_iff.mp hadd
  have hpush := hh.push (e := seedling id tag v) (hh.kinds hv)
  exact hpush.update id fun _ he => he

/-- Whatever an edit statement does to a host, it stores no markers. -/
theorem edited (hh : h.DeletionFree) {fields : FieldConventions} {P : Statement → Prop}
    {id : ElementId} (he : h.Edited fields P id h') : h'.DeletionFree := by
  cases he with
  | set _ hv hset => exact hh.set (Value.deletionFree_withoutDeletions _ hv) hset
  | delete _ _ hdelete => exact hh.delete hdelete
  | merge _ _ hmerge => exact hh.merge hmerge
  | @field _ key indexer _ path _ _ _ _ hpath hwrite hset =>
    have hne : path ≠ [] := by
      cases indexer with
      | none => cases hpath; simp
      | some i => cases i <;> cases hpath <;> simp
    have hbase : (h.get id).value.orObject.DeletionFree := by
      have hvalue := hh.values id
      cases hv : (h.get id).value with
      | null => exact trivial
      | _ => rw [hv] at hvalue; exact hvalue
    exact hh.set (hbase.writeAt hne hwrite) hset

/-! ## Described trees -/

theorem keptByLoading : KeptByLoading (fun _ => True) DeletionFree where
  below _ _ _ := trivial
  push _ _ hh := hh.push (Value.deletionFree_ofJson _)
  update id _ hh := hh.update id fun _ he => he

end DeletionFree

/-- The host of a described tree stores no markers if its kinds start with none. -/
theorem deletionFree_ofDescription {kinds : Kinds}
    (hkinds : ∀ {tag : String} {v : Value}, Table.get? kinds tag = some v → v.DeletionFree)
    (d : Description) : (ofDescription kinds d).DeletionFree := by
  have hempty : (empty kinds).DeletionFree := ⟨fun _ => trivial, hkinds⟩
  exact DeletionFree.keptByLoading.ofDescription hempty (d := d) trivial

end Host

/-! ## Executions -/

/-- No change of a run stores a removal marker. -/
theorem Change.deletionFree {t : Terms} {m m' : Machine} (h : Change t m m')
    (hm : m.host.DeletionFree) : m'.host.DeletionFree := by
  have hselect : ∀ {selector : Selector} {scope : ElementId}
      {result : Except SelectorError (List ElementId)} {host : Host},
      selector.resolve t.provision scope m.host = (result, host) → host.DeletionFree := by
    intro selector scope result host hr
    have hinv := Host.select_invariant (J := Host.DeletionFree) (fun hadd hh => hh.add hadd)
      t.provision.registry.rulesets t.provision.settings.limits.maxRulesetDepth selector scope hm
    rw [Selector.resolve] at hr
    rw [hr] at hinv
    exact hinv
  cases h with
  | failed _ hr => exact hselect hr
  | yielded _ hr => exact hselect hr
  | edited he _ => exact hm.edited he
  | opened | bound | function | mixin | stage | skipped | ran => exact hm

/-- **Removal markers are never stored.** Whatever patch is executed on a described tree, with
whatever registry and settings, no element holds a removal marker at any moment of the
execution or behind what is run at that moment, nor when the execution has ended, in whatever
way it has. -/
theorem Patch.execute_deletionFree (p : Provision) (patch : Patch) {kinds : Kinds}
    (hkinds : ∀ {tag : String} {v : Value}, Table.get? kinds tag = some v → v.DeletionFree)
    (d : Description) :
    (∀ μ, Moment.Reaches p (.start p patch (.ofDescription kinds d)) μ →
      μ.machine.host.DeletionFree ∧ (μ.after p).host.DeletionFree) ∧
    (patch.execute p (.ofDescription kinds d)).2.DeletionFree := by
  have hregistry : p.registry.Every fun _ => True :=
    Registry.every_of (fun _ => trivial) _
  have hmoment : ∀ μ, Moment.Reaches p (.start p patch (.ofDescription kinds d)) μ →
      μ.machine.host.DeletionFree ∧ (μ.after p).host.DeletionFree :=
    fun μ hμ => Moment.Reaches.invariant (J := fun m => m.host.DeletionFree) hregistry
      (Statement.everyIn_of (fun _ => trivial) patch.statements) (fun hc hm => hc.deletionFree hm)
      (fun _ hm => hm) (Host.deletionFree_ofDescription hkinds d) hμ
  refine ⟨hmoment, ?_⟩
  rw [← Moment.after_start]
  exact (hmoment _ .refl).2

/-- A patch that merges `{ a: { b: deletion } }` into every element, executed on a tree of two:
the markers are gone before anything is stored. -/
theorem Patch.execute_deletionFree_merge :
    let p : Provision := ⟨.withActiveMods [], .standard⟩
    let marked : Expr := .object .origin [.mk .origin "b" (.literal .origin .deletion)]
    let merged : Statement := .merge .origin (.object .origin [.mk .origin "a" marked])
    let patch : Patch := ⟨.origin, [.selection .origin [] (.wildcard .origin) [merged]], false⟩
    let d : Description := .mk "list" none [] .null [.mk "item" none [] .null [] false] false
    let h := Host.ofDescription [("item", .object [])] d
    (∀ μ, Moment.Reaches p (.start p patch h) μ →
      μ.machine.host.DeletionFree ∧ (μ.after p).host.DeletionFree) ∧
    (patch.execute p h).2.DeletionFree ∧
    ((patch.execute p h).2.get 1).value = .object [("a", .object [])] := by
  intro p marked merged patch d h
  have hkinds : ∀ {tag : String} {v : Value},
      Table.get? [("item", Value.object [])] tag = some v → v.DeletionFree := fun hv => by
    simp only [Table.get?] at hv
    split at hv
    · cases hv
      exact trivial
    · cases hv
  have hfree := execute_deletionFree p patch hkinds d
  exact ⟨hfree.1, hfree.2, rfl⟩

end Graft
