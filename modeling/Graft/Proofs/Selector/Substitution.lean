import Graft.Selector.Match

/-!
What stands for rulesets and additions in a selector.

A selector refers to rulesets by their names, and asks for new elements by their types. Both can be
replaced by other selectors, and what the selector matches then is what it matches where the names
mean the selectors that have taken their place.
-/

set_option autoImplicit false

namespace Graft.Selector

/-- The names of rulesets in a selector, from left to right. -/
def references : Selector → List String
  | ruleset _ name => [name]
  | child _ left right | intersection _ left right | combination _ left right =>
    left.references ++ right.references
  | _ => []

/-- The types of the additions in a selector, from left to right. -/
def additions : Selector → List String
  | addition _ type => [type]
  | child _ left right | intersection _ left right | combination _ left right =>
    left.additions ++ right.additions
  | _ => []

/-- A selector with others in the place of references and additions. -/
def substitute (forRuleset forAddition : Coordinate → String → Selector) : Selector → Selector
  | ruleset loc name => forRuleset loc name
  | addition loc type => forAddition loc type
  | child loc left right =>
    child loc (left.substitute forRuleset forAddition) (right.substitute forRuleset forAddition)
  | intersection loc left right =>
    intersection loc (left.substitute forRuleset forAddition)
      (right.substitute forRuleset forAddition)
  | combination loc left right =>
    combination loc (left.substitute forRuleset forAddition)
      (right.substitute forRuleset forAddition)
  | s => s

section

variable {forRuleset forAddition : Coordinate → String → Selector}

theorem mem_references_substitute {name : String} : ∀ {s : Selector},
    name ∈ (s.substitute forRuleset forAddition).references →
      (∃ loc, ∃ other ∈ s.references, name ∈ (forRuleset loc other).references) ∨
      ∃ loc, ∃ type ∈ s.additions, name ∈ (forAddition loc type).references := by
  intro s h
  induction s with
  | ruleset loc other => exact .inl ⟨loc, other, List.mem_singleton_self other, h⟩
  | addition loc type => exact .inr ⟨loc, type, List.mem_singleton_self type, h⟩
  | child loc left right ihleft ihright | intersection loc left right ihleft ihright
  | combination loc left right ihleft ihright =>
    simp only [substitute, references, additions, List.mem_append] at h ⊢
    rcases h with h | h
    · rcases ihleft h with ⟨loc, other, hother, hname⟩ | ⟨loc, type, htype, hname⟩
      · exact .inl ⟨loc, other, .inl hother, hname⟩
      · exact .inr ⟨loc, type, .inl htype, hname⟩
    · rcases ihright h with ⟨loc, other, hother, hname⟩ | ⟨loc, type, htype, hname⟩
      · exact .inl ⟨loc, other, .inr hother, hname⟩
      · exact .inr ⟨loc, type, .inr htype, hname⟩
  | _ => cases h

/-- **Matching after a substitution** is matching where names mean what has been substituted, as
long as additions are replaced by what matches nothing. -/
theorem matchesWith_substitute {resolve resolve' : String → Test} {s : Selector}
    (hruleset : ∀ loc, ∀ name ∈ s.references,
      (forRuleset loc name).matchesWith resolve = resolve' name)
    (haddition : ∀ loc, ∀ type ∈ s.additions,
      (forAddition loc type).matchesWith resolve = fun _ _ => .ok false) :
    (s.substitute forRuleset forAddition).matchesWith resolve = s.matchesWith resolve' := by
  induction s with
  | ruleset loc name => exact hruleset loc name (List.mem_singleton_self name)
  | addition loc type => exact haddition loc type (List.mem_singleton_self type)
  | child loc left right ihleft ihright | intersection loc left right ihleft ihright
  | combination loc left right ihleft ihright =>
    have hleft := ihleft (fun loc name h => hruleset loc name (List.mem_append_left _ h))
      fun loc type h => haddition loc type (List.mem_append_left _ h)
    have hright := ihright (fun loc name h => hruleset loc name (List.mem_append_right _ h))
      fun loc type h => haddition loc type (List.mem_append_right _ h)
    funext above e
    simp only [substitute, matchesWith, hleft, hright]
  | _ => rfl

end

/-- A selector is matched by the tests of the names in it only. -/
theorem matchesWith_congr {resolve resolve' : String → Test} {s : Selector}
    (h : ∀ name ∈ s.references, resolve name = resolve' name) :
    s.matchesWith resolve = s.matchesWith resolve' := by
  have hsame : s.substitute ruleset addition = s := by
    clear h
    induction s with
    | child loc left right ihleft ihright | intersection loc left right ihleft ihright
    | combination loc left right ihleft ihright => rw [substitute, ihleft, ihright]
    | _ => rfl
  have hmatches : (s.substitute ruleset addition).matchesWith resolve = s.matchesWith resolve' :=
    matchesWith_substitute (fun _ name hname => h name hname) fun _ _ _ => rfl
  rw [hsame] at hmatches
  exact hmatches

end Graft.Selector
