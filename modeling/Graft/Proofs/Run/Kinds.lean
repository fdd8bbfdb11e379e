import Graft.Proofs.Host.Footprint
import Graft.Proofs.Host.Kinds
import Graft.Proofs.Run.Attachment
import Graft.Proofs.Run.Ending

/-!
Additions in executions on a described tree.

A selector adds elements to its scope, or to what another selector matches. It is refused for a
kind only where it has come to an element to add to that may be edited, and then for the first of
these: a kind that the first addition finds is there for all others. No operation changes the
kinds, so in an execution on a tree whose types are the kinds this is decided by the tree that the
execution began with, whatever has become of it. And no other part of a patch fails like that.
-/

set_option autoImplicit false

namespace Graft

/-! ## Additions of a selector -/

namespace Selector

/-- A selector makes new elements of a type in these: in its scope, or in each match of the selector
that stands before the addition. -/
inductive AddsTo (p : Provision) (scope : ElementId) (h : Host) (type : String) :
    Selector → List ElementId → Prop
  | scope {loc : Coordinate} : AddsTo p scope h type (.addition loc type) [scope]
  | matched {loc aloc : Coordinate} {outer : Selector} {ids : List ElementId} :
    checkNoAddition outer = .ok () →
    outer.enumerate p.registry.rulesets p.settings.limits.maxRulesetDepth (h.snapshot scope) =
      .ok ids →
    AddsTo p scope h type (.child loc outer (.addition aloc type)) ids

variable {p : Provision} {scope : ElementId} {h : Host} {type tag : String} {s : Selector}
  {ids : List ElementId}

theorem AddsTo.resolve (hs : s.AddsTo p scope h type ids) :
    s.resolve p scope h = addToEach type ids h := by
  cases hs with
  | scope => rfl
  | matched hcheck hids =>
    rw [Selector.resolve, select, hcheck]
    simp only [bind, Except.bind, hids]

/-- Matching is not refused by the host. -/
theorem enumerate_ne_host {rulesets : Table Selector} {limit : Nat} {tree : Snapshot}
    {e : HostError} : s.enumerate rulesets limit tree ≠ .error (.host e) := by
  intro h
  obtain ⟨q, -, hfails⟩ := (enumerate_eq_error_iff rulesets limit s tree _).mp h
  cases hfails

/-- Neither is the check for additions. -/
theorem checkNoAddition_ne_host {e : HostError} : checkNoAddition s ≠ .error (.host e) := by
  rw [checkNoAddition_eq]
  cases s.additions.head? with
  | none => nofun
  | some type => nofun

/-- Additions in turn are refused for a kind exactly if their type is none and the first element
may be edited. -/
theorem addToEach_eq_unknownKind_iff :
    (addToEach type ids h).1 = .error (.host (.unknownKind tag)) ↔
      tag = type ∧ Table.get? h.kinds type = none ∧
        ∃ id rest, ids = id :: rest ∧ h.checkEditable id = .ok () := by
  constructor
  · intro herr
    -- Whichever addition fails has found the same kinds as the first one.
    obtain ⟨_, _, e, he, hfails, hkinds⟩ := addToEach_eq_error ids herr
    cases he
    obtain ⟨-, rfl, hnone⟩ := Host.add_eq_unknownKind_iff.mp hfails
    rw [hkinds] at hnone
    refine ⟨rfl, hnone, ?_⟩
    cases ids with
    | nil => cases herr
    | cons id rest =>
      refine ⟨id, rest, rfl, ?_⟩
      unfold addToEach at herr
      split at herr
      · rename_i e hadd
        cases herr
        exact (Host.add_eq_unknownKind_iff.mp hadd).1
      · rename_i hadd
        exact (Host.add_eq_ok_iff.mp hadd).1
  · rintro ⟨rfl, hnone, id, rest, rfl, heditable⟩
    have hadd : h.add id tag = .error (.unknownKind tag) :=
      Host.add_eq_unknownKind_iff.mpr ⟨heditable, rfl, hnone⟩
    rw [addToEach, hadd]

/-- What adds nothing is not refused by the host. -/
theorem addsTo_or_resolve_ne_host (p : Provision) (scope : ElementId) (h : Host) (s : Selector) :
    (∃ type ids, s.AddsTo p scope h type ids) ∨
      ∀ e, (s.resolve p scope h).1 ≠ .error (.host e) := by
  -- A check that fails is not refused by the host, nor is matching behind it.
  have hmatching : ∀ (s : Selector) (e : HostError), (do
      checkNoAddition s
      s.enumerate p.registry.rulesets p.settings.limits.maxRulesetDepth (h.snapshot scope)) ≠
        .error (.host e) := by
    intro s e he
    cases hcheck : checkNoAddition s with
    | error err =>
      rw [hcheck] at he
      cases he
      exact checkNoAddition_ne_host hcheck
    | ok _ =>
      rw [hcheck] at he
      exact enumerate_ne_host he
  unfold Selector.resolve select
  split
  · exact .inl ⟨_, _, .scope⟩
  · rename_i outer aloc type
    split
    · rename_i ids hids
      cases hcheck : checkNoAddition outer with
      | error err =>
        rw [hcheck] at hids
        cases hids
      | ok _ =>
        rw [hcheck] at hids
        exact .inl ⟨_, _, .matched hcheck hids⟩
    · rename_i err herr
      refine .inr fun e he => ?_
      cases he
      exact hmatching outer e herr
  · exact .inr (hmatching s)

/-- **A selector is refused for a kind** exactly if it adds to an element that may be edited, before
all others, and the type that it adds is no kind. -/
theorem resolve_eq_unknownKind_iff :
    (s.resolve p scope h).1 = .error (.host (.unknownKind type)) ↔
      Table.get? h.kinds type = none ∧
        ∃ id rest, s.AddsTo p scope h type (id :: rest) ∧ h.checkEditable id = .ok () := by
  constructor
  · intro herr
    rcases addsTo_or_resolve_ne_host p scope h s with ⟨tag, ids, hadds⟩ | hne
    · rw [hadds.resolve] at herr
      obtain ⟨rfl, hnone, id, rest, rfl, heditable⟩ := addToEach_eq_unknownKind_iff.mp herr
      exact ⟨hnone, id, rest, hadds, heditable⟩
    · exact absurd herr (hne _)
  · rintro ⟨hnone, id, rest, hadds, heditable⟩
    rw [hadds.resolve]
    exact addToEach_eq_unknownKind_iff.mpr ⟨rfl, hnone, id, rest, rfl, heditable⟩

end Selector

/-! ## Executions -/

namespace Moment

/-- At the moment, a selection is to run whose selector stands at this place and adds elements of a
type to these. -/
inductive Adds (p : Provision) (type : String) (ids : List ElementId) (loc : Coordinate) :
    Moment → Prop
  | selection {l : Nat} {env : Environment} {ctx : Context} {place : Coordinate}
    {attributes : List Attribute} {selector : Selector} {body : List Statement} {m : Machine} :
    Run.isWanted p attributes ctx.selected = true →
    selector.AddsTo p ctx.element m.host type ids → selector.loc = loc →
    Adds p type ids loc ⟨l, .statement env ctx (.selection place attributes selector body), m⟩

/-- Here an addition of a type is come to whose first element may be edited. -/
def Asks (p : Provision) (type : String) (loc : Coordinate) (μ : Moment) : Prop :=
  ∃ id rest, μ.Adds p type (id :: rest) loc ∧ μ.machine.host.checkEditable id = .ok ()

/-- A moment refuses to go on for a kind exactly if it asks for a type that is none. -/
theorem refuses_unknownKind_iff {p : Provision} {μ : Moment} {loc : Coordinate} {type : String} :
    μ.Refuses p ⟨loc, .selector (.host (.unknownKind type))⟩ ↔
      μ.Asks p type loc ∧ Table.get? μ.machine.host.kinds type = none := by
  constructor
  · rintro (_ | ⟨hw, hr⟩)
    have herr := congrArg Prod.fst hr
    obtain ⟨hnone, id, rest, hadds, heditable⟩ := Selector.resolve_eq_unknownKind_iff.mp herr
    exact ⟨⟨id, rest, .selection hw hadds rfl, heditable⟩, hnone⟩
  · rintro ⟨⟨id, rest, ⟨hw, hadds, rfl⟩, heditable⟩, hnone⟩
    have herr := Selector.resolve_eq_unknownKind_iff.mpr ⟨hnone, id, rest, hadds, heditable⟩
    exact .selector hw (Prod.ext herr rfl)

section

variable {p : Provision} {patch : Patch} {kinds : Kinds} {d : Description} {μ : Moment}
  {type : String}

/-- The kinds at every moment are those at the beginning. -/
theorem Reaches.kinds_eq (hμ : Reaches p (start p patch (.ofDescription kinds d)) μ) :
    μ.machine.host.kinds = kinds :=
  hμ.rooted.1.reached.kinds_eq.trans (Host.kinds_ofDescription kinds d)

/-- What halts for a kind goes back to a moment that asks for a type which is none. -/
theorem halts_unknownKind_iff {loc : Coordinate}
    (hμ : Reaches p (start p patch (.ofDescription kinds d)) μ) :
    μ.Halts p (.failed ⟨loc, .selector (.host (.unknownKind type))⟩) ↔
      Table.get? kinds type = none ∧ ∃ ν, Reaches p μ ν ∧ ν.Asks p type loc := by
  have hkinds : ∀ {ν}, Reaches p μ ν → ν.machine.host.kinds = kinds :=
    fun hν => Reaches.kinds_eq (hμ.trans hν)
  let f : Failure := ⟨loc, .selector (.host (.unknownKind type))⟩
  have hfault : f.cause.trouble ≠ .malformed := fun h => by cases h
  rw [halts_iff_refuses rfl hfault]
  constructor
  · rintro ⟨ν, hν, hrefuses⟩
    obtain ⟨hasks, hnone⟩ := refuses_unknownKind_iff.mp hrefuses
    rw [hkinds hν] at hnone
    exact ⟨hnone, ν, hν, hasks⟩
  · rintro ⟨hnone, ν, hν, hasks⟩
    rw [← hkinds hν] at hnone
    exact ⟨ν, hν, refuses_unknownKind_iff.mpr ⟨hasks, hnone⟩⟩

end

end Moment

/-! ## Kinds of a tree -/

namespace Kinds

variable {d : Description} {kinds : Kinds}

/-- The types of a tree are no kinds exactly if one of them is blank. -/
theorem ofTypes_eq_error_iff {e : HostError} :
    ofTypes d.types = .error e ↔
      e = .emptyKind ∧ ∃ type ∈ d.occurring, Text.isBlankText type = true := by
  have hany : d.types.any Text.isBlankText = true ↔
      ∃ type ∈ d.occurring, Text.isBlankText type = true := by
    simp only [List.any_eq_true, d.firsts_types.mem_iff]
  rw [ofTypes_types, ← hany]
  by_cases hblank : d.types.any Text.isBlankText = true
  · rw [if_pos hblank, and_iff_left hblank, Except.error.injEq, eq_comm]
  · rw [if_neg hblank]
    exact iff_of_false nofun fun h => hblank h.2

/-- Otherwise all types of the tree are kinds, and nothing else is. -/
theorem get?_of_ofTypes (h : ofTypes d.types = .ok kinds) (type : String) :
    Table.get? kinds type = if type ∈ d.occurring then some (.object []) else none := by
  rw [ofTypes_types] at h
  split at h
  · cases h
  · cases h
    simp only [get?_ofNames, d.firsts_types.mem_iff]

theorem get?_eq_none_iff (h : ofTypes d.types = .ok kinds) {type : String} :
    Table.get? kinds type = none ↔ type ∉ d.occurring := by
  rw [get?_of_ofTypes h]
  split
  · rename_i hmem
    exact iff_of_false nofun fun hnot => hnot hmem
  · rename_i hnot
    exact iff_of_true rfl hnot

end Kinds

/-- A job that comes to registering the types of its tree is refused there exactly if they are no
kinds. -/
theorem Job.perform_eq_refusedTree_iff {job : Job} {review : Review} {text : String}
    {d : Description} (hreview : Review.ofText? job.patch = some review)
    (hclean : review.isClean = true) (htext : job.tree = some text)
    (htree : Description.parse? text = some d) {e : HostError} :
    job.perform = .error (.refusedTree e) ↔ Kinds.ofTypes d.types = .error e := by
  unfold perform
  simp only [hreview, hclean, htext, htree]
  cases Kinds.ofTypes d.types with
  | error refused =>
    constructor
    · intro h
      cases h
      rfl
    · intro h
      cases h
      rfl
  | ok kinds =>
    refine iff_of_false (fun h => ?_) nofun
    -- The run ends with a report, or it halts.
    simp only [Except.mapError, bind, Except.bind] at h
    cases hresult : (review.patch.execute ⟨.withActiveMods job.settings.activeMods, job.settings⟩
        (.ofDescription kinds d)).1 with
    | ok report =>
      simp only [hresult] at h
      cases h
    | error halt =>
      simp only [hresult] at h
      cases h

/-- **Every type of the tree can be added, and no other.** The types of the elements of a tree are
listed once, in the order of their first occurrence. They are no kinds exactly if one of them is
blank, and with this error a job is refused. Otherwise an addition to an element that may be edited
is refused for the kind, at every moment of every execution on the tree, exactly if the tree has no
element of the type. The execution fails in this way exactly if it comes to such an addition. -/
theorem Description.addable_iff_occurring (d : Description) :
    Firsts d.occurring d.types ∧
    (∀ kinds, (Host.ofDescription kinds d).elementTypes = d.occurring) ∧
    (∀ e, Kinds.ofTypes d.types = .error e ↔
      e = .emptyKind ∧ ∃ type ∈ d.occurring, Text.isBlankText type = true) ∧
    (∀ (job : Job) (review : Review) (text : String),
      Review.ofText? job.patch = some review → review.isClean = true →
      job.tree = some text → Description.parse? text = some d →
      ∀ e, job.perform = .error (.refusedTree e) ↔
        e = .emptyKind ∧ ∃ type ∈ d.occurring, Text.isBlankText type = true) ∧
    ∀ kinds, Kinds.ofTypes d.types = .ok kinds → ∀ p patch,
      let start := Moment.start p patch (.ofDescription kinds d)
      (∀ μ, Moment.Reaches p start μ → ∀ id, μ.machine.host.checkEditable id = .ok () → ∀ type,
        (μ.machine.host.add id type = .error (.unknownKind type) ↔ type ∉ d.occurring) ∧
        (type ∈ d.occurring → ∃ child host, μ.machine.host.add id type = .ok (child, host))) ∧
      (∀ μ, Moment.Reaches p start μ → ∀ type loc, μ.Asks p type loc →
        (μ.Halts p (.failed ⟨loc, .selector (.host (.unknownKind type))⟩) ↔
          type ∉ d.occurring)) ∧
      ∀ type loc,
        (patch.execute p (.ofDescription kinds d)).1 =
            .error (.failed ⟨loc, .selector (.host (.unknownKind type))⟩) ↔
          type ∉ d.occurring ∧ ∃ μ, Moment.Reaches p start μ ∧ μ.Asks p type loc := by
  refine ⟨d.firsts_types, fun kinds => Host.elementTypes_ofDescription kinds d,
    fun e => Kinds.ofTypes_eq_error_iff, fun job review text hreview hclean htext htree e => ?_,
    fun kinds hkinds p patch => ⟨fun μ hμ id heditable type => ⟨?_, fun hmem => ?_⟩,
      fun μ hμ type loc hasks => ?_, fun type loc => ?_⟩⟩
  · rw [Job.perform_eq_refusedTree_iff hreview hclean htext htree]
    exact Kinds.ofTypes_eq_error_iff
  · rw [Host.add_eq_unknownKind_iff, hμ.kinds_eq, Kinds.get?_eq_none_iff hkinds]
    exact ⟨fun h => h.2.2, fun h => ⟨heditable, rfl, h⟩⟩
  · have hkind : Table.get? μ.machine.host.kinds type = some (.object []) := by
      rw [hμ.kinds_eq, Kinds.get?_of_ofTypes hkinds, if_pos hmem]
    exact ⟨_, _, Host.add_eq_grown heditable hkind⟩
  · rw [Moment.halts_unknownKind_iff hμ, Kinds.get?_eq_none_iff hkinds]
    exact and_iff_left ⟨μ, .refl, hasks⟩
  · rw [Moment.execute_eq_error_iff, Moment.halts_unknownKind_iff .refl,
      Kinds.get?_eq_none_iff hkinds]

/-- In the tree `doc > a`, an element of the type `a` can be added to the root, and one of the type
`b` cannot. -/
theorem Description.addable_iff_occurring_absent :
    let d : Description := .mk "doc" none [] .null [.mk "a" none [] .null [] false] false
    let kinds := Kinds.ofNames ["doc", "a"]
    let p : Provision := ⟨.withActiveMods [], .standard⟩
    let adding (type : String) : Patch :=
      ⟨.origin, [.selection .origin [] (.addition .origin type) []], false⟩
    let result (type : String) : Except Halt Report :=
      ((adding type).execute p (.ofDescription kinds d)).1
    let refusal (type : String) : Failure := ⟨.origin, .selector (.host (.unknownKind type))⟩
    Kinds.ofTypes d.types = .ok kinds ∧ result "b" = .error (.failed (refusal "b")) ∧
      result "a" ≠ .error (.failed (refusal "a")) := by
  intro d kinds p adding result refusal
  have hkinds : Kinds.ofTypes d.types = .ok kinds :=
    (Kinds.ofTypes_types d).trans (if_neg (by decide))
  obtain ⟨-, -, -, -, hrun⟩ := d.addable_iff_occurring
  obtain ⟨-, -, ha⟩ := hrun kinds hkinds p (adding "a")
  obtain ⟨-, -, hb⟩ := hrun kinds hkinds p (adding "b")
  refine ⟨hkinds, (hb "b" .origin).mpr ⟨by decide, _, .single .firstStatement, ?_⟩, fun h => ?_⟩
  · exact ⟨Host.root, [], .selection rfl .scope rfl, rfl⟩
  · exact ((ha "a" .origin).mp h).1 (by decide)

end Graft
