import Graft.Proofs.Run.Composition
import Graft.Proofs.Run.Termination

/-!
What an execution touches.

Every effect of an execution is that of a selection that is run, which adds elements, or of an
edit statement, whose edit the host accepts. An edit statement edits the element that it is run
against, and that is one that a selection has yielded. So an execution changes the values of
elements only that have been yielded, and it changes nothing at all if no edit is counted and no
selection adds elements.
-/

set_option autoImplicit false

namespace Graft

open Run

variable {p : Provision}

/-! ## Effects add up -/

/-- What each effect brings about that a part has by itself, at a moment or at one that is reached
from it, is brought about by the part of the moment as a whole. -/
theorem Moment.after_of_acts {J : Machine → Machine → Prop}
    (hquiet : ∀ {m m' : Machine}, m.Quiet m' → J m m')
    (htrans : ∀ {m m' m'' : Machine}, J m m' → J m' m'' → J m m'') (μ : Moment)
    (hacts : ∀ ν, Reaches p μ ν → ∀ m m', ν.Acts p m m' → J m m') :
    J μ.machine (μ.after p) := by
  -- Calls do not go on for ever, so what is called may be assumed to be known.
  induction μ using (next_wellFounded p).induction with
  | _ μ ih =>
    have hbrings := brings_after (p := p) μ
    generalize μ.machine = m, μ.after p = m' at hbrings
    induction hbrings with
    | quiet h => exact hquiet h
    | acts h => exact hacts μ .refl _ _ h
    | next hν => exact ih _ hν fun κ hκ => hacts κ (.head hν hκ)
    | trans _ _ ih₁ ih₂ => exact htrans ih₁ ih₂

/-! ## Which elements are offered -/

/-- The context in which a part is run. -/
def Part.context : Part → Context
  | expr _ ctx _ | exprs _ ctx _ | entries _ ctx _ _ | args _ ctx _ | call _ ctx _ _ _ _
  | items _ ctx _ _ _ | closure ctx _ _ _ | routine _ _ _ _ ctx _ | slots _ _ ctx _ _
  | statement _ ctx _ | block _ ctx _ | branches _ ctx _ | range _ ctx _ _ _ _ _ _
  | each _ ctx _ _ _ _ _ _ | again _ ctx _ _ _ _ | visits _ ctx _ _ _ => ctx

/-- A part offers an element to edits: a selection goes through it, or it is selected where the
part is run. -/
def Part.Offers (id : ElementId) : Part → Prop
  | visits _ _ _ _ ids => id ∈ ids
  | part => part.context.selected = true ∧ id = part.context.element

namespace Moment

/-- At the moment, a selection with this selector is run. -/
inductive Selects (p : Provision) : Moment → Selector → Prop
  | selection {l : Nat} {env : Environment} {ctx : Context} {loc : Coordinate}
    {attributes : List Attribute} {selector : Selector} {body : List Statement} {m : Machine} :
    isWanted p attributes ctx.selected = true →
    Selects p ⟨l, .statement env ctx (.selection loc attributes selector body), m⟩ selector

/-- At the moment, a selection is run, and its selector yields the element. -/
inductive Yields (p : Provision) : Moment → ElementId → Prop
  | selection {l : Nat} {env : Environment} {ctx : Context} {loc : Coordinate}
    {attributes : List Attribute} {selector : Selector} {body : List Statement} {m : Machine}
    {ids : List ElementId} {host : Host} {id : ElementId} :
    isWanted p attributes ctx.selected = true →
    selector.resolve p ctx.element m.host = (.ok ids, host) → id ∈ ids →
    Yields p ⟨l, .statement env ctx (.selection loc attributes selector body), m⟩ id

variable {μ ν : Moment} {id : ElementId}

/-- What is offered where something is called is offered by what calls it, or it has just been
yielded. -/
theorem Next.offers (h : Next p μ ν) (hν : ν.part.Offers id) :
    μ.part.Offers id ∨ μ.Yields p id := by
  cases h with
  | selection hw hr => exact .inr (.selection hw hr hν)
  | @visit l env ctx loc body first rest m scope m' _ _ =>
    obtain ⟨_, rfl⟩ := hν
    exact .inl List.mem_cons_self
  | otherVisits _ _ => exact .inl (List.mem_cons_of_mem _ hν)
  | _ => exact .inl hν

/-- What is offered at a moment has been offered before, or a selection has yielded it. -/
theorem Reaches.offers (h : Reaches p μ ν) (hν : ν.part.Offers id) :
    μ.part.Offers id ∨ ∃ κ, Reaches p μ κ ∧ κ.Yields p id := by
  induction h with
  | refl => exact .inl hν
  | tail hprev hnext ih =>
    rcases hnext.offers hν with hoffers | hyields
    · exact ih hoffers
    · exact .inr ⟨_, hprev, hyields⟩

end Moment

/-! ## Values -/

/-- A host that has come of another, with the same elements and more, and with the same values
but for elements in `Y`. -/
structure Host.KeepsValues (Y : ElementId → Prop) (h h' : Host) : Prop where
  size : h.elements.size ≤ h'.elements.size
  value : ∀ id, id < h.elements.size → ¬ Y id → (h'.get id).value = (h.get id).value

namespace Host.KeepsValues

variable {Y : ElementId → Prop} {h h' h'' : Host} {id : ElementId}

theorem refl (h : Host) : KeepsValues Y h h :=
  ⟨Nat.le_refl _, fun _ _ _ => rfl⟩

theorem trans (h₁ : KeepsValues Y h h') (h₂ : KeepsValues Y h' h'') : KeepsValues Y h h'' where
  size := Nat.le_trans h₁.size h₂.size
  value id hid hY := by
    have hid' := Nat.lt_of_lt_of_le hid h₁.size
    exact (h₂.value id hid' hY).trans (h₁.value id hid hY)

/-- An update keeps the values if it keeps that of its element, or if the element is in `Y`. -/
theorem update (h : Host) {id : ElementId} {change : Element → Element}
    (hchange : Y id ∨ ∀ e : Element, (change e).value = e.value) :
    KeepsValues Y h (h.update id change) := by
  refine ⟨Nat.le_of_eq (size_update h id change).symm, fun other hother hY => ?_⟩
  by_cases he : id = other
  · rcases hchange with hid | hvalue
    · exact absurd (he ▸ hid) hY
    · exact field_update h id other (f := Element.value) hvalue
  · rw [get_update_of_ne h change he]

theorem delete {held : List ElementId} (hdelete : h.delete held id = .ok h') :
    KeepsValues Y h h' := by
  obtain ⟨_, parent, _, rfl⟩ := delete_eq_ok_iff.mp hdelete
  have htaken : KeepsValues Y h (h.update parent fun e =>
      { e with children := e.children.filter (· != id), modified := true }) :=
    update h (.inr fun _ => rfl)
  exact htaken.trans (update _ (.inr fun _ => rfl))

theorem set {v : Value} (hid : Y id) (hset : h.set id v = .ok h') : KeepsValues Y h h' := by
  obtain ⟨_, rfl⟩ := set_eq_ok_iff.mp hset
  exact update h (.inl hid)

theorem merge {v : Value} (hid : Y id) (hmerge : h.merge id v = .ok h') : KeepsValues Y h h' := by
  obtain ⟨_, rfl⟩ := merge_eq_ok_iff.mp hmerge
  exact update h (.inl hid)

theorem add {tag : String} {child : ElementId} (hadd : h.add id tag = .ok (child, h')) :
    KeepsValues Y h h' := by
  obtain ⟨_, _, v, _, rfl⟩ := add_eq_ok_iff.mp hadd
  have hpush : KeepsValues Y h (h.push (seedling id tag v)).2 := by
    refine ⟨by rw [size_push]; exact Nat.le_succ _, fun other hother _ => ?_⟩
    rw [get_push, if_neg (Nat.ne_of_lt hother)]
  exact hpush.trans (update _ (.inr fun _ => rfl))

/-- Additions by selectors change no values. -/
theorem resolve {selector : Selector} {scope : ElementId}
    {r : Except SelectorError (List ElementId)} (hr : selector.resolve p scope h = (r, h')) :
    KeepsValues Y h h' := by
  have hselect := select_invariant (J := KeepsValues Y h) (fun hadd hh => hh.trans (add hadd))
    p.registry.rulesets p.settings.limits.maxRulesetDepth selector scope (refl h)
  rw [Selector.resolve] at hr
  rw [hr] at hselect
  exact hselect

end Host.KeepsValues

/-- An edit that a statement comes to changes the value of the selected element at most. -/
theorem Run.Requests.keepsValues {enter : Enter} {env : Environment} {ctx : Context}
    {m m' : Machine} {s : Statement} {loc : Coordinate} {change : Host → Except HostError Host}
    {host : Host} {Y : ElementId → Prop} (hr : Requests p enter env ctx m s loc change m')
    (hY : Y ctx.element) (hchange : change m'.host = .ok host) :
    Host.KeepsValues Y m'.host host := by
  cases hr with
  | @set _ _ v =>
    dsimp only at hchange
    by_cases hdeletion : v.isDeletion = true
    · rw [if_pos hdeletion] at hchange
      exact .delete hchange
    · rw [if_neg hdeletion] at hchange
      exact .set hY hchange
  | delete => exact .delete hchange
  | @merge _ _ v =>
    dsimp only at hchange
    by_cases hdeletion : v.isDeletion = true
    · rw [if_pos hdeletion] at hchange
      exact .delete hchange
    · rw [if_neg hdeletion] at hchange
      exact .merge hY hchange
  | field => exact .set hY hchange

/-- What a part does by itself changes the values at most of what it offers to edits. -/
theorem Moment.Acts.keepsValues {μ : Moment} {m m' : Machine} {Y : ElementId → Prop}
    (h : μ.Acts p m m') (hY : ∀ id, μ.part.Offers id → Y id) :
    Host.KeepsValues Y m.host m'.host := by
  cases h with
  | yields _ hr | fails _ hr => exact .resolve hr
  | edits hr hchange => exact hr.keepsValues (hY _ ⟨hr.selected, rfl⟩) hchange

/-! ## Additions -/

/-- The last segment of a selector is an addition. -/
def Selector.endsInAddition : Selector → Bool
  | addition _ _ => true
  | child _ _ (addition _ _) => true
  | _ => false

/-- A selector without an addition at its end leaves the host as it is. -/
theorem Selector.resolve_of_not_endsInAddition {selector : Selector}
    (h : selector.endsInAddition = false) {scope : ElementId} {host host' : Host}
    {r : Except SelectorError (List ElementId)}
    (hr : selector.resolve p scope host = (r, host')) : host' = host := by
  rw [resolve] at hr
  unfold select at hr
  split at hr
  · cases h
  · cases h
  · exact (congrArg Prod.snd hr).symm

/-- Where no selector adds elements, what a part does by itself changes nothing or is an edit that
is counted. -/
theorem Moment.Acts.host_eq {μ : Moment} {m m' : Machine} (h : μ.Acts p m m')
    (hselects : ∀ selector, μ.Selects p selector → selector.endsInAddition = false) :
    m.report.edits ≤ m'.report.edits ∧ (m'.report.edits = m.report.edits → m'.host = m.host) := by
  cases h with
  | yields hw hr | fails hw hr =>
    have hhost := Selector.resolve_of_not_endsInAddition (hselects _ (.selection hw)) hr
    exact ⟨Nat.le_refl _, fun _ => hhost⟩
  | @edits _ _ _ _ _ _ _ _ host =>
    have hcount : (m.edited host).report.edits = m.report.edits + 1 := rfl
    refine ⟨?_, fun he => ?_⟩
    · rw [hcount]
      exact Nat.le_succ _
    · rw [hcount] at he
      exact absurd he (Nat.succ_ne_self _)

/-- A statement is no selection that adds elements. -/
def Statement.AddsNothing : Statement → Prop
  | .selection _ _ selector _ => selector.endsInAddition = false
  | _ => True

/-- Where no selection is written that adds elements, none is run. -/
theorem Moment.Selects.addsNothing {patch : Patch} {h : Host} {μ : Moment} {selector : Selector}
    (hregistry : p.registry.Every Statement.AddsNothing)
    (hpatch : Statement.EveryIn Statement.AddsNothing patch.statements)
    (hμ : Moment.Reaches p (.start p patch h) μ) (hs : μ.Selects p selector) :
    selector.endsInAddition = false := by
  obtain ⟨_, _, hsound⟩ := Moment.Reaches.sound (t := .whole p _ hregistry) hμ
    (Moment.sound_start hregistry hpatch)
  cases hs with
  | selection _ => exact hsound.part.1.1

/-! ## Executions -/

namespace Patch

/-- An execution that ends well leaves the machine of its first part, with its report. -/
theorem after_start_of_ok {patch : Patch} {h h' : Host} {report : Report}
    (he : patch.execute p h = (.ok report, h')) :
    ((Moment.start p patch h).after p).report = report ∧
      ((Moment.start p patch h).after p).host = h' := by
  refine ⟨?_, by rw [Moment.after_start, he]⟩
  simp only [execute, Machine.start] at he
  simp only [Moment.after, Moment.start, Machine.start, Part.run, after_silently]
  rw [after]
  generalize runBlock p _ _ _ patch.statements _ = r at he ⊢
  cases r with
  | ok flow m =>
    cases he
    rfl
  | error halt m => cases he

/-- **An execution touches only what it selects.** However it ends: an element whose value it has
changed was yielded by a selection that was run. And if it ends well, no edit is counted, and no
selection was run whose selector ends in an addition, then it has changed nothing. -/
theorem execute_touches (p : Provision) (patch : Patch) (h : Host) :
    (∀ id, id < h.elements.size →
      ((patch.execute p h).2.get id).value ≠ (h.get id).value →
      ∃ μ, Moment.Reaches p (.start p patch h) μ ∧ μ.Yields p id) ∧
    ∀ report h', patch.execute p h = (.ok report, h') → report.edits = 0 →
      (∀ μ selector, Moment.Reaches p (.start p patch h) μ → μ.Selects p selector →
        selector.endsInAddition = false) →
      h' = h := by
  refine ⟨fun id hid hvalue => ?_, fun report h' he hedits hselects => ?_⟩
  · -- What is not yielded is not offered to edits, since nothing is selected at the beginning.
    let Y : ElementId → Prop := fun id =>
      ∃ μ, Moment.Reaches p (.start p patch h) μ ∧ μ.Yields p id
    have hkeeps : Host.KeepsValues Y h ((Moment.start p patch h).after p).host := by
      refine Moment.after_of_acts (J := fun m m' => Host.KeepsValues Y m.host m'.host)
        (fun hquiet => ?_) (fun h₁ h₂ => h₁.trans h₂) (.start p patch h)
        fun ν hν m m' hacts => hacts.keepsValues fun other hoffers => ?_
      · rw [hquiet.host]
        exact .refl _
      · rcases hν.offers hoffers with hstart | hyields
        · exact absurd hstart.1 Bool.false_ne_true
        · exact hyields
    rw [Moment.after_start] at hkeeps
    by_contra hY
    exact hvalue (hkeeps.value id hid hY)
  · obtain ⟨hreport, hhost⟩ := after_start_of_ok he
    have hsame := Moment.after_of_acts (J := fun m m' =>
        m.report.edits ≤ m'.report.edits ∧ (m'.report.edits = m.report.edits → m'.host = m.host))
      (fun hquiet => ⟨Nat.le_of_eq hquiet.edits.symm, fun _ => hquiet.host⟩)
      (fun h₁ h₂ => ⟨Nat.le_trans h₁.1 h₂.1, fun heq => ?_⟩) (.start p patch h)
      fun ν hν m m' hacts => hacts.host_eq fun selector => hselects ν selector hν
    · rw [hreport, hedits] at hsame
      rw [← hhost]
      exact hsame.2 rfl
    · -- The count does not fall, so it has not risen in between.
      have hmid := Nat.le_antisymm (heq ▸ h₂.1) h₁.1
      exact (h₂.2 (heq.trans hmid.symm)).trans (h₁.2 hmid)

end Patch

/-- A patch with a single block, which is run against each `a`. -/
def Draft.visiting (body : List Draft.BlockStatement) : Draft :=
  ⟨.origin, [.selection .origin [] (.ofType .origin "a") body]⟩

/-- In the chain `doc > a > b`, a block that gives `a` a value has yielded `a`, and a block without
statements leaves the tree as it is. -/
theorem Patch.execute_touches_visiting :
    let p : Provision := ⟨.withActiveMods [], .standard⟩
    let h : Host := .ofDescription [] .chain
    let setting : Patch := .ofDraft (.visiting [.set .origin (.boolean .origin true)])
    let looking : Patch := .ofDraft (.visiting [])
    ((setting.execute p h).2.get 1).value = .bool true ∧
      (∃ μ, Moment.Reaches p (.start p setting h) μ ∧ μ.Yields p 1) ∧
      (looking.execute p h).2 = h := by
  intro p h setting looking
  have hvalue : ((setting.execute p h).2.get 1).value = .bool true := by rfl
  have hbefore : (h.get 1).value = .null := by rfl
  obtain ⟨report, h', he, hedits⟩ :
      ∃ report h', looking.execute p h = (.ok report, h') ∧ report.edits = 0 := ⟨_, _, rfl, rfl⟩
  refine ⟨hvalue, (execute_touches p setting h).1 1 (by decide) ?_, ?_⟩
  · rw [hvalue, hbefore]
    exact nofun
  · have hregistry : p.registry.Every Statement.AddsNothing :=
      { functions := fun hf => by cases hf
        mixins := fun _ _ _ hf => by cases hf
        libraries := fun _ _ _ hf => by cases hf }
    have hlooking : Statement.EveryIn Statement.AddsNothing looking.statements :=
      ⟨⟨rfl, trivial⟩, trivial⟩
    rw [he]
    exact (execute_touches p looking h).2 report h' he hedits fun _ _ hμ hs =>
      hs.addsNothing hregistry hlooking hμ

end Graft
