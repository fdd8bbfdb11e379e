import Graft.Proofs.Patch.Prune
import Graft.Proofs.Selector.Ruleset

/-!
Where additions may stand.

A selector may end with an addition. One that stands elsewhere in the selector is refused before
anything is matched or added, whatever the rulesets are. The check does not look into rulesets:
an addition in a definition, wherever it stands there, is matched like a selector that nothing
satisfies.
-/

set_option autoImplicit false

namespace Graft.Selector

/-! ## Places of additions -/

/-- An addition of a type stands in a selector where it is not the last segment: in the outer part
of a step, or in an intersection or a combination. -/
def Misplaced : Selector → (type : String) → Prop
  | child _ outer inner, type => type ∈ outer.additions ∨ inner.Misplaced type
  | intersection _ left right, type | combination _ left right, type =>
    type ∈ left.additions ∨ type ∈ right.additions
  | _, _ => False

/-- The types of the additions that are not asked for. Asked for is an addition that is the whole
selector, or the inner part of the step that is the whole selector. -/
def stray : Selector → List String
  | addition _ _ => []
  | child _ outer (addition _ _) => outer.additions
  | s => s.additions

section

variable {s : Selector} {type : String}

theorem Misplaced.mem_additions (h : s.Misplaced type) : type ∈ s.additions := by
  induction s with
  | child loc outer inner _ ihinner => exact List.mem_append.mpr (h.imp_right ihinner)
  | intersection loc left right | combination loc left right => exact List.mem_append.mpr h
  | _ => exact h.elim

/-- What is misplaced is not asked for. -/
theorem Misplaced.mem_stray (h : s.Misplaced type) : type ∈ s.stray := by
  unfold stray
  split
  · exact h.elim
  · exact h.resolve_right id
  · exact h.mem_additions

end

/-! ## The check -/

/-- The check names the first addition that it finds. -/
theorem checkNoAddition_eq : ∀ s : Selector,
    checkNoAddition s =
      s.additions.head?.elim (.ok ()) fun type => .error (.misplacedAddition type)
  | ofType _ _ | withName _ _ | withClass _ _ | ruleset _ _ | wildcard _ | withoutClass _ _
  | withoutName _ _ | invalid _ _ | addition _ _ => rfl
  | child _ left right | intersection _ left right | combination _ left right => by
    rw [checkNoAddition, checkNoAddition_eq left, checkNoAddition_eq right, additions,
      List.head?_append]
    cases left.additions.head? <;> rfl

section

variable {rulesets : Table Selector} {limit : Nat} {s : Selector} {scope : ElementId} {h : Host}

/-- Matching refuses no addition. -/
theorem enumerate_ne_misplaced {tree : Snapshot} {type : String} :
    s.enumerate rulesets limit tree ≠ .error (.misplacedAddition type) := by
  intro h
  obtain ⟨q, _, hfails⟩ := (enumerate_eq_error_iff rulesets limit s tree _).mp h
  cases hfails

/-- Adding in turn fails with the error of one of the additions, which has found the same kinds. -/
theorem addToEach_eq_error {tag : String} {err : SelectorError} : ∀ (ids : List ElementId)
    {h : Host}, (addToEach tag ids h).1 = .error err →
      ∃ id h' e, err = .host e ∧ Host.add h' id tag = .error e ∧ h'.kinds = h.kinds
  | [], _, herr => nomatch herr
  | id :: rest, h, herr => by
    unfold addToEach at herr
    split at herr
    · rename_i e hadd
      cases herr
      exact ⟨id, h, e, rfl, hadd, rfl⟩
    · rename_i newId h' hadd
      have hkinds : h'.kinds = h.kinds := by
        obtain ⟨-, -, v, -, rfl⟩ := Host.add_eq_ok_iff.mp hadd
        rfl
      rcases hadded : addToEach tag rest h' with ⟨failed | added, h''⟩
      · rw [hadded] at herr
        cases herr
        obtain ⟨other, between, e, rfl, hfails, hsame⟩ :=
          addToEach_eq_error rest (congrArg Prod.fst hadded)
        exact ⟨other, between, e, rfl, hfails, hsame.trans hkinds⟩
      · rw [hadded] at herr
        cases herr

/-- Adding fails at the host only. -/
theorem addToEach_ne_misplaced (tag : String) {type : String} (ids : List ElementId) (h : Host) :
    (addToEach tag ids h).1 ≠ .error (.misplacedAddition type) := by
  intro herr
  obtain ⟨_, _, _, he, -⟩ := addToEach_eq_error ids herr
  cases he

/-- A selector with an addition that is not asked for is refused, and nothing is added. -/
theorem select_of_stray {first : String} (hs : s.stray.head? = some first) :
    s.select rulesets limit scope h = (.error (.misplacedAddition first), h) := by
  unfold select
  split
  · cases hs
  · rw [stray] at hs
    rw [checkNoAddition_eq, hs]
    rfl
  · rename_i hwhole hlast
    rw [stray.eq_3 s hwhole hlast] at hs
    rw [checkNoAddition_eq, hs]
    rfl

theorem select_ne_misplaced {type : String} (hs : s.stray.head? = none) :
    (s.select rulesets limit scope h).1 ≠ .error (.misplacedAddition type) := by
  unfold select
  split
  · exact addToEach_ne_misplaced _ _ h
  · rename_i outer _ _
    rw [stray] at hs
    rw [checkNoAddition_eq, hs]
    cases hids : outer.enumerate rulesets limit (h.snapshot scope) with
    | ok ids => exact addToEach_ne_misplaced _ _ h
    | error err => exact fun herr => enumerate_ne_misplaced (hids.trans herr)
  · rename_i hwhole hlast
    rw [stray.eq_3 s hwhole hlast] at hs
    rw [checkNoAddition_eq, hs]
    exact enumerate_ne_misplaced

/-- **A selection is refused for an addition** exactly if one is not asked for, and then for the
first of these. -/
theorem select_eq_misplaced {type : String} :
    (s.select rulesets limit scope h).1 = .error (.misplacedAddition type) ↔
      s.stray.head? = some type := by
  cases hs : s.stray.head? with
  | some first => simp [select_of_stray hs]
  | none => exact iff_of_false (select_ne_misplaced hs) nofun

end

/-! ## Additions in definitions -/

/-- What no element satisfies: to have a name and not to have it. -/
def nothing (loc : Coordinate) : Selector :=
  .intersection loc (.withName loc "") (.withoutName loc "")

theorem matchesWith_nothing (loc : Coordinate) (resolve : String → Test) :
    (nothing loc).matchesWith resolve = fun _ _ => .ok false := by
  funext above e
  cases h : e.name == some "" with
  | true => simp [nothing, matchesWith, eq_of_beq h, bind, Except.bind]
  | false => simp [nothing, matchesWith, h, bind, Except.bind, pure, Except.pure]

/-- A selector with what no element satisfies in the place of additions. -/
def mute (s : Selector) : Selector :=
  s.substitute .ruleset fun loc _ => nothing loc

theorem additions_mute (s : Selector) : s.mute.additions = [] := by
  induction s with
  | child loc left right ihleft ihright | intersection loc left right ihleft ihright
  | combination loc left right ihleft ihright =>
    exact List.append_eq_nil_iff.mpr ⟨ihleft, ihright⟩
  | _ => rfl

theorem matchesWith_mute (s : Selector) (resolve : String → Test) :
    s.mute.matchesWith resolve = s.matchesWith resolve :=
  matchesWith_substitute (fun _ _ _ => rfl) fun loc _ _ => matchesWith_nothing loc resolve

/-- Names test the same where definitions are muted, by induction on the levels that are left. -/
theorem resolveWithin_mute (rulesets : Table Selector) (limit : Nat) : ∀ levels : Nat,
    resolveWithin (rulesets.change mute) limit levels = resolveWithin rulesets limit levels
  | 0 => rfl
  | levels + 1 => by
    funext name above e
    simp only [resolveWithin, Table.get?_change, resolveWithin_mute rulesets limit levels]
    cases Table.get? rulesets name with
    | none => rfl
    | some definition => exact congrFun (congrFun (matchesWith_mute definition _) above) e

/-- **A selection does not see additions in rulesets.** -/
theorem select_mute (rulesets : Table Selector) (limit : Nat) (s : Selector) (scope : ElementId)
    (h : Host) :
    s.select (rulesets.change mute) limit scope h = s.select rulesets limit scope h := by
  have henumerate : ∀ s tree,
      enumerate (rulesets.change mute) limit s tree = enumerate rulesets limit s tree := by
    rintro s ⟨id, e, children⟩
    simp only [enumerate, isMatch, resolveWithin_mute]
  simp only [select, henumerate]

/-! ## Refusal -/

/-- **Where additions may stand.** An addition that is misplaced in the selector is refused, and
nothing is added; more exactly, a selection is refused for the first addition that is not asked
for, if there is one. Additions in rulesets are never refused: selections are the same where
definitions have what no element satisfies in their place. -/
theorem select_additions (rulesets : Table Selector) (limit : Nat) (s : Selector)
    (scope : ElementId) (h : Host) :
    ((∃ type, s.Misplaced type) → ∃ first, s.stray.head? = some first ∧
      s.select rulesets limit scope h = (.error (.misplacedAddition first), h)) ∧
    (∀ type, (s.select rulesets limit scope h).1 = .error (.misplacedAddition type) ↔
      s.stray.head? = some type) ∧
    (∀ name definition, Table.get? (rulesets.change mute) name = some definition →
      definition.additions = []) ∧
    s.select rulesets limit scope h = s.select (rulesets.change mute) limit scope h := by
  refine ⟨?_, fun _ => select_eq_misplaced, ?_, (select_mute rulesets limit s scope h).symm⟩
  · rintro ⟨type, hs⟩
    obtain ⟨first, hfirst⟩ : ∃ first, s.stray.head? = some first :=
      Option.isSome_iff_exists.mp (List.isSome_head?.mpr (List.ne_nil_of_mem hs.mem_stray))
    exact ⟨first, hfirst, select_of_stray hfirst⟩
  · intro name definition hget
    rw [Table.get?_change] at hget
    obtain ⟨original, _, rfl⟩ := Option.map_eq_some_iff.mp hget
    exact additions_mute original

/-- The ruleset `r` is an intersection with an addition, which is misplaced there. A selection by
`r` below the tree `doc > a` is not refused: the addition is taken for something that `a` does not
satisfy. -/
theorem select_additionInRuleset :
    let definition : Selector := .intersection .origin (.ofType .origin "a") (.addition .origin "b")
    let rulesets : Table Selector := [("r", definition)]
    let h := Host.ofDescription [("b", .null)]
      (.mk "doc" none [] .null [.mk "a" none [] .null [] false] false)
    definition.Misplaced "b" ∧ (ruleset .origin "r").select rulesets 16 0 h = (.ok [], h) :=
  ⟨.inr (List.mem_singleton_self _), rfl⟩

end Graft.Selector
