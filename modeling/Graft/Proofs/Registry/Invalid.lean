import Graft.Proofs.Registry.Registration
import Graft.Proofs.Selector.Addition
import Graft.Proofs.Selector.Valid

/-!
Invalid selectors in a registry.

A ruleset is refused if the outermost node of its selector is an invalid one. Nodes farther inside
are not looked at, so a definition can have invalid nodes below an intersection, say, and what
refers to it can fail as an invalid selector although it has no invalid node itself.

When it does is said by the questions that matching comes to: a selection fails so if one of them
is about an invalid node. The node then stands in the selector or below the outermost node of a
definition. Where no definition has invalid nodes, a selector without them never fails so.
-/

set_option autoImplicit false

namespace Graft

namespace Selector

/-! ## Invalid nodes -/

/-- The messages of the invalid nodes in a selector, from left to right. -/
def faults : Selector → List String
  | invalid _ text => [text]
  | child _ left right | intersection _ left right | combination _ left right =>
    left.faults ++ right.faults
  | _ => []

theorem valid_iff_faults (s : Selector) : s.Valid ↔ s.faults = [] := by
  induction s with
  | child _ left right ihleft ihright | intersection _ left right ihleft ihright
  | combination _ left right ihleft ihright =>
    rw [Valid, faults, List.append_eq_nil_iff, ihleft, ihright]
  | invalid _ text => exact iff_of_false id (List.cons_ne_nil text [])
  | _ => exact iff_of_true trivial rfl

namespace Question

variable {rulesets : Table Selector} {limit : Nat} {q q' : Question} {text : String}

/-- A question fails as an invalid one if it is about an invalid node. -/
theorem fails_invalid_iff :
    q.Fails rulesets limit (.invalid text) ↔ ∃ loc, q.selector = .invalid loc text := by
  constructor
  · intro h
    cases h with
    | invalid => exact ⟨_, rfl⟩
  · rintro ⟨loc, hq⟩
    obtain ⟨depth, s, above, e⟩ := q
    obtain rfl : s = .invalid loc text := hq
    exact .invalid

/-- What is asked about is a part of what was asked about before, or a definition. -/
theorem Asks.mem_faults (h : q.Asks rulesets limit q') (ht : text ∈ q'.selector.faults) :
    text ∈ q.selector.faults ∨
      ∃ name s, Table.get? rulesets name = some s ∧ text ∈ s.faults := by
  cases h with
  | definition _ hget => exact .inr ⟨_, _, hget, ht⟩
  | inner | right _ | other _ => exact .inl (List.mem_append_right _ ht)
  | outer _ _ _ | left | one => exact .inl (List.mem_append_left _ ht)

/-- The same along all questions that are asked, by induction from the last one. -/
theorem mem_faults_of_asked (h : Relation.ReflTransGen (Asks rulesets limit) q q')
    (ht : text ∈ q'.selector.faults) :
    text ∈ q.selector.faults ∨
      ∃ name s, Table.get? rulesets name = some s ∧ text ∈ s.faults := by
  induction h using Relation.ReflTransGen.head_induction_on with
  | refl => exact .inl ht
  | head hasks _ ih =>
    rcases ih with hmem | hdefinition
    · exact hasks.mem_faults hmem
    · exact .inr hdefinition

end Question

/-! ## Selections -/

/-- What a selection looks for in the tree: nothing, if the whole selector is an addition, and
otherwise what stands outside of an addition that is asked for. -/
def searched : Selector → Option Selector
  | addition _ _ => none
  | child _ outer (addition _ _) => some outer
  | s => some s

section

variable {rulesets : Table Selector} {limit : Nat} {s t : Selector} {scope : ElementId} {h : Host}
  {text : String}

theorem mem_faults_of_searched (ht : s.searched = some t) (htext : text ∈ t.faults) :
    text ∈ s.faults := by
  unfold searched at ht
  split at ht
  · cases ht
  · cases ht
    exact List.mem_append_left _ htext
  · cases ht
    exact htext

/-- A selection fails as an invalid one if no addition is refused and the search fails so. -/
theorem select_eq_invalid_iff :
    (s.select rulesets limit scope h).1 = .error (.invalid text) ↔
      s.stray.head? = none ∧ ∃ t, s.searched = some t ∧
        t.enumerate rulesets limit (h.snapshot scope) = .error (.invalid text) := by
  cases hs : s.stray.head? with
  | some first =>
    rw [select_of_stray hs]
    simp
  | none =>
    unfold select
    split
    · exact iff_of_false (addToEach_notInvalid _ _ h text) (by simp [searched])
    · rename_i outer _ _
      rw [stray] at hs
      rw [checkNoAddition_eq, hs, searched]
      cases hids : outer.enumerate rulesets limit (h.snapshot scope) with
      | ok ids =>
        refine iff_of_false (addToEach_notInvalid _ _ h text) ?_
        rintro ⟨-, t, ht, herr⟩
        cases ht
        cases hids.symm.trans herr
      | error err =>
        constructor
        · intro herr
          exact ⟨rfl, outer, rfl, hids.trans (congrArg _ (Except.error.inj herr))⟩
        · rintro ⟨-, t, ht, herr⟩
          cases ht
          cases hids.symm.trans herr
          rfl
    · rename_i hwhole hlast
      rw [stray.eq_3 s hwhole hlast] at hs
      rw [checkNoAddition_eq, hs, searched.eq_3 s hwhole hlast]
      constructor
      · exact fun herr => ⟨rfl, s, rfl, herr⟩
      · rintro ⟨-, t, ht, herr⟩
        cases ht
        exact herr

end

end Selector

namespace Registry

open Selector

variable {mods : List String} {calls : List Registration}

/-- A registered ruleset is no invalid node. -/
theorem ruleset?_history {name : String} {s : Selector}
    (h : ((withActiveMods mods).attemptAll calls).ruleset? name = some s) :
    .ruleset name s ∈ calls ∧ Text.isBlankText name = false ∧ isInvalid s = false := by
  have hlookup : ((withActiveMods mods).attemptAll calls).lookup .ruleset name =
      some (.selector s) := by rw [lookup, h, Option.map_some]
  obtain ⟨c, hmem, hkind, rfl, hdefinition, hblank, hacceptable⟩ := exists_registration hlookup
  cases c with
  | ruleset name s' =>
    cases hdefinition
    exact ⟨hmem, hblank, hacceptable⟩
  | function _ _ | mixin _ _ | library _ _ => cases hkind

/-- Where a selection fails as an invalid one, matching has come to an invalid node. -/
theorem select_eq_invalid_iff_comesTo {rulesets : Table Selector} {limit : Nat} {s : Selector}
    {scope : ElementId} {h : Host} {text : String} :
    (s.select rulesets limit scope h).1 = .error (.invalid text) ↔
      s.stray.head? = none ∧ ∃ t q loc, s.searched = some t ∧
        ComesTo rulesets limit t (h.snapshot scope) q ∧ q.selector = .invalid loc text := by
  simp only [select_eq_invalid_iff, enumerate_eq_error_iff, Question.fails_invalid_iff]
  constructor
  · rintro ⟨hstray, t, ht, q, hq, loc, hloc⟩
    exact ⟨hstray, t, q, loc, ht, hq, hloc⟩
  · rintro ⟨hstray, t, q, loc, ht, hq, hloc⟩
    exact ⟨hstray, t, ht, q, hq, loc, hloc⟩

/-- The invalid node stands in the selector or in a definition. -/
theorem mem_faults_of_select {rulesets : Table Selector} {limit : Nat} {s : Selector}
    {scope : ElementId} {h : Host} {text : String}
    (herr : (s.select rulesets limit scope h).1 = .error (.invalid text)) :
    text ∈ s.faults ∨ ∃ name definition, Table.get? rulesets name = some definition ∧
      text ∈ definition.faults := by
  obtain ⟨-, t, q, loc, ht, ⟨_, c, _, _, _, hasked⟩, hloc⟩ :=
    select_eq_invalid_iff_comesTo.mp herr
  have hnode : text ∈ q.selector.faults := by
    rw [hloc]
    exact List.mem_singleton_self text
  rcases Question.mem_faults_of_asked hasked hnode with hmem | hdefinition
  · exact .inl (mem_faults_of_searched ht hmem)
  · exact .inr hdefinition

/-- A ruleset is refused as an invalid one if its name is not blank and its selector is an invalid
node. -/
theorem registerRuleset_eq_invalid_iff (r : Registry) (name : String) (s : Selector) :
    r.registerRuleset name s = .error (.invalidRuleset name) ↔
      Text.isBlankText name = false ∧ isInvalid s = true := by
  rw [registerRuleset]
  cases hblank : Text.isBlankText name with
  | true => simp
  | false =>
    cases hinvalid : isInvalid s with
    | true => simp
    | false =>
      cases Table.has r.rulesets name with
      | true => simp
      | false => simp

/-- **Invalid selectors in a registry.** Behind any history of registrations: a ruleset is refused
as an invalid one exactly if it has a name and is an invalid node, and no ruleset that is found is
one. A selection fails as an invalid one exactly if no addition is refused and what it looks for
comes to a question about an invalid node. If it has no such node itself, the node is one of a
registered definition, inside of which it stands; so it does not fail where the definitions have
none. -/
theorem history_invalid (mods : List String) (calls : List Registration) :
    (∀ name s, ((withActiveMods mods).attemptAll calls).registerRuleset name s =
      .error (.invalidRuleset name) ↔ Text.isBlankText name = false ∧ isInvalid s = true) ∧
    (∀ name s, ((withActiveMods mods).attemptAll calls).ruleset? name = some s →
      isInvalid s = false) ∧
    (∀ (s : Selector) limit scope h text,
      (s.select ((withActiveMods mods).attemptAll calls).rulesets limit scope h).1 =
        .error (.invalid text) ↔
      s.stray.head? = none ∧ ∃ t q loc, s.searched = some t ∧
        ComesTo ((withActiveMods mods).attemptAll calls).rulesets limit t (h.snapshot scope) q ∧
        q.selector = .invalid loc text) ∧
    (∀ (s : Selector) limit scope h text, s.Valid →
      (s.select ((withActiveMods mods).attemptAll calls).rulesets limit scope h).1 =
        .error (.invalid text) →
      ∃ name definition,
        ((withActiveMods mods).attemptAll calls).ruleset? name = some definition ∧
        isInvalid definition = false ∧ text ∈ definition.faults) ∧
    ((∀ name definition, ((withActiveMods mods).attemptAll calls).ruleset? name = some definition →
        definition.Valid) →
      ∀ (s : Selector) limit scope h text, s.Valid →
        (s.select ((withActiveMods mods).attemptAll calls).rulesets limit scope h).1 ≠
          .error (.invalid text)) := by
  have hroot : ∀ name s, ((withActiveMods mods).attemptAll calls).ruleset? name = some s →
      isInvalid s = false := fun _ _ h => (ruleset?_history h).2.2
  have hinside : ∀ (s : Selector) limit scope h text, s.Valid →
      (s.select ((withActiveMods mods).attemptAll calls).rulesets limit scope h).1 =
        .error (.invalid text) →
      ∃ name definition,
        ((withActiveMods mods).attemptAll calls).ruleset? name = some definition ∧
        isInvalid definition = false ∧ text ∈ definition.faults := by
    intro s limit scope h text hs herr
    rcases mem_faults_of_select herr with hmem | ⟨name, definition, hget, hmem⟩
    · rw [(valid_iff_faults s).mp hs] at hmem
      exact absurd hmem List.not_mem_nil
    · exact ⟨name, definition, hget, hroot name definition hget, hmem⟩
  refine ⟨registerRuleset_eq_invalid_iff _, hroot, fun s limit scope h text =>
    select_eq_invalid_iff_comesTo, hinside, ?_⟩
  intro hvalid s limit scope h text hs herr
  obtain ⟨name, definition, hget, -, hmem⟩ := hinside s limit scope h text hs herr
  rw [(valid_iff_faults definition).mp (hvalid name definition hget)] at hmem
  exact List.not_mem_nil hmem

/-- The elements of type `a`, which also are what is no selector. -/
def broken : Selector :=
  .intersection .origin (.ofType .origin "a") (.invalid .origin "bad")

/-- The tree `doc > a`. -/
def single : Host :=
  Host.ofDescription [] (.mk "doc" none [] .null [.mk "a" none [] .null [] false] false)

/-- A ruleset with an invalid node in an intersection is registered, and a selection by its name
below `doc > a` fails as an invalid one. With a ruleset that has no invalid node, it does not. -/
theorem history_invalid_broken :
    let s : Selector := .ruleset .origin "r"
    let r := (withActiveMods []).attemptAll [.ruleset "r" broken]
    let r' := (withActiveMods []).attemptAll [.ruleset "r" (.ofType .origin "a")]
    s.Valid ∧ (s.select r.rulesets 16 0 single).1 = .error (.invalid "bad") ∧
    (∃ name definition, r.ruleset? name = some definition ∧ isInvalid definition = false ∧
      "bad" ∈ definition.faults) ∧
    (∀ name definition, r'.ruleset? name = some definition → definition.Valid) ∧
    (s.select r'.rulesets 16 0 single).1 ≠ .error (.invalid "bad") := by
  intro s r r'
  have hblank : Text.isBlankText "r" = false := by decide +kernel
  have hregistered : ∀ s, isInvalid s = false →
      (withActiveMods []).attemptAll [.ruleset "r" s] = ⟨[("r", s)], [], [], [], []⟩ := by
    intro s hs
    have hok : (withActiveMods []).register (.ruleset "r" s) =
        .ok ⟨[("r", s)], [], [], [], []⟩ :=
      register_eq_ok_iff.mpr ⟨hblank, hs, rfl, rfl⟩
    rw [attemptAll, List.foldl_cons, List.foldl_nil, attempt, hok]
  have hr : r = ⟨[("r", broken)], [], [], [], []⟩ := hregistered broken rfl
  have hr' : r' = ⟨[("r", .ofType .origin "a")], [], [], [], []⟩ := hregistered _ rfl
  have hfails : (s.select r.rulesets 16 0 single).1 = .error (.invalid "bad") := by
    rw [hr]
    rfl
  have hvalid : ∀ name definition, r'.ruleset? name = some definition → definition.Valid := by
    intro name definition hget
    rw [hr'] at hget
    cases List.mem_singleton.mp (Table.mem_of_get? hget)
    exact trivial
  refine ⟨trivial, hfails, ?_, hvalid, ?_⟩
  · exact (history_invalid [] [.ruleset "r" broken]).2.2.2.1 s 16 0 single "bad" trivial hfails
  · exact (history_invalid [] [.ruleset "r" (.ofType .origin "a")]).2.2.2.2 hvalid s 16 0 single
      "bad" trivial

/-- The ruleset is not refused, although there is an invalid node in it. -/
theorem registerRuleset_broken :
    ¬ broken.Valid ∧
    (withActiveMods []).registerRuleset "r" broken = .ok ⟨[("r", broken)], [], [], [], []⟩ ∧
    ((Selector.ruleset .origin "r").select [("r", broken)] 16 0 single).1 =
      .error (.invalid "bad") := by
  have hblank : Text.isBlankText "r" = false := by decide +kernel
  refine ⟨fun h => h.2, ?_, rfl⟩
  rw [registerRuleset, hblank]
  rfl

end Registry

end Graft
