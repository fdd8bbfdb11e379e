import Mathlib.Data.Prod.Lex
import Mathlib.Data.Set.Finite.Lattice
import Mathlib.Data.Set.Finite.List
import Mathlib.Logic.Relation
import Graft.Proofs.Selector.Meaning
import Graft.Proofs.Selector.Substitution

/-!
What rulesets mean.

Where rulesets are registered and nest within the limit, a name means its definition: a selector
enumerates what is enumerated by the selector that has definitions in the place of all names. In
general, matching is a matter of questions, each about one selector, one element and one depth.
Whether a question is asked depends on the answers to others, but the questions come to an end in
any case, also where rulesets refer to each other in circles, and what is enumerated fails exactly
with the error of the question that the matching comes to and that has one.
-/

set_option autoImplicit false

namespace Graft

/-! ## Definitions in the place of names -/

namespace Selector

section

variable (rulesets : Table Selector)

/-- The names that a selector refers to are registered, and so are those that their definitions
refer to, no deeper than so many levels. -/
def NestsWithin : (levels : Nat) → Selector → Prop
  | 0, s => s.references = []
  | levels + 1, s => ∀ name ∈ s.references,
    ∃ definition, Table.get? rulesets name = some definition ∧ NestsWithin levels definition

/-- A selector with definitions in the place of names, and in the place of the names in them, so
many levels deep. A name that is not registered stays. -/
def expand : (levels : Nat) → Selector → Selector
  | 0, s => s
  | levels + 1, s =>
    s.substitute (fun loc name =>
      match Table.get? rulesets name with
      | some definition => expand levels definition
      | none => .ruleset loc name) .addition

variable {rulesets}

/-- No names are left where they nest within the levels. -/
theorem NestsWithin.references_expand : ∀ {levels : Nat} {s : Selector},
    s.NestsWithin rulesets levels → (s.expand rulesets levels).references = []
  | 0, _, h => h
  | levels + 1, s, h => by
    refine List.eq_nil_iff_forall_not_mem.mpr fun name hname => ?_
    rcases mem_references_substitute hname with ⟨loc, other, hother, hname⟩ | ⟨_, _, _, hname⟩
    · obtain ⟨definition, hget, hnests⟩ := h other hother
      rw [hget, hnests.references_expand] at hname
      exact List.not_mem_nil hname
    · exact List.not_mem_nil hname

/-- A selector is matched as its expansion is, whatever names are taken to test there. By
induction on the levels: without one left there are no names, and with one left each of them is
tested as its definition. -/
theorem NestsWithin.matchesWith_expand (limit : Nat) (resolve : String → Test) :
    ∀ {levels : Nat} {s : Selector}, s.NestsWithin rulesets levels →
    (s.expand rulesets levels).matchesWith resolve =
      s.matchesWith (resolveWithin rulesets limit levels)
  | 0, s, h => by
    have hnames : s.references = [] := h
    rw [expand]
    refine matchesWith_congr fun name hname => ?_
    rw [hnames] at hname
    exact absurd hname List.not_mem_nil
  | levels + 1, s, h => by
    refine matchesWith_substitute (fun loc name hname => ?_) fun _ _ _ => rfl
    obtain ⟨definition, hget, hnests⟩ := h name hname
    have hdefinition := hnests.matchesWith_expand limit resolve
    funext above e
    simp only [hget, resolveWithin, hdefinition]

/-- **A selector enumerates what its expansion enumerates**, for which no rulesets are needed. -/
theorem NestsWithin.enumerate_expand {limit : Nat} {s : Selector}
    (h : s.NestsWithin rulesets limit) (tree : Snapshot) (rulesets' : Table Selector)
    (limit' : Nat) :
    s.enumerate rulesets limit tree =
      (s.expand rulesets limit).enumerate rulesets' limit' tree := by
  obtain ⟨id, e, children⟩ := tree
  simp only [enumerate, isMatch, h.matchesWith_expand limit]

end

/-! ## Where matching fails -/

/-- A branch fails with its condition, or with the way that the condition takes. -/
theorem branch_eq_error {x y z : Except SelectorError Bool} {err : SelectorError} :
    (do if ← x then y else z) = .error err ↔
      x = .error err ∨ (x = .ok true ∧ y = .error err) ∨ (x = .ok false ∧ z = .error err) := by
  rcases x with e | _ | _ <;> simp [bind, Except.bind]

/-- Something holds of all elements of a path, each seen with the part of the path above it. -/
def EachAbove (P : List Element → Element → Prop) (path : List Element) : Prop :=
  ∀ before a above, path = before ++ a :: above → P above a

section

variable {P : List Element → Element → Prop} {a : Element} {path : List Element}

@[simp] theorem eachAbove_nil : EachAbove P [] := by
  intro before a above hpath
  cases before with
  | nil => cases hpath
  | cons b before => cases hpath

@[simp] theorem eachAbove_cons : EachAbove P (a :: path) ↔ P path a ∧ EachAbove P path := by
  constructor
  · intro h
    exact ⟨h [] a path rfl, fun before b above hpath => h (a :: before) b above (hpath ▸ rfl)⟩
  · rintro ⟨ha, hrest⟩ before b above hpath
    cases before with
    | nil =>
      cases hpath
      exact ha
    | cons c before =>
      cases hpath
      exact hrest before b above rfl

end

section

variable {test : Test} {path : List Element}

/-- A test finds nothing on a path exactly if its answer is no for each of the elements. -/
theorem anyOf_eq_false :
    anyOf test path = .ok false ↔ EachAbove (fun above a => test above a = .ok false) path := by
  induction path with
  | nil => simp [anyOf]
  | cons a path ih =>
    rw [eachAbove_cons, ← ih]
    cases h : anyOf test path with
    | error err => simp [anyOf, h, bind, Except.bind]
    | ok b => cases b <;> simp [anyOf, h, bind, Except.bind, pure, Except.pure]

/-- A test fails on a path where it fails for an element, after it has not held of those farther
away. -/
theorem anyOf_eq_error {err : SelectorError} :
    anyOf test path = .error err ↔
      SomeAbove (fun above a =>
        EachAbove (fun above a => test above a = .ok false) above ∧ test above a = .error err)
        path := by
  induction path with
  | nil => simp [anyOf]
  | cons a path ih =>
    rw [someAbove_cons, ← ih, ← anyOf_eq_false]
    refine branch_eq_error.trans ?_
    simp [pure, Except.pure, or_comm]

end

/-! ## Questions -/

/-- What is asked while selectors are matched: whether this selector matches this element below
that path. The depth counts the rulesets that have been expanded on the way to the question. -/
structure Question where
  depth : Nat
  selector : Selector
  above : List Element
  element : Element

namespace Question

section

variable (rulesets : Table Selector) (limit : Nat)

/-- The answer to a question, with the levels of rulesets that are left at its depth. -/
def answer (q : Question) : Except SelectorError Bool :=
  q.selector.matchesWith (resolveWithin rulesets limit (limit - q.depth)) q.above q.element

/-- Which questions are asked to find the answer to another one. Names are expanded below the
limit only, and a level deeper. What stands second is asked about if the answer to what stands
first leaves it open; the elements above are asked about until one of them is matched, from the
farthest on. -/
inductive Asks : Question → Question → Prop
  | definition {depth : Nat} {loc : Coordinate} {name : String} {s : Selector}
      {above : List Element} {e : Element} (hdepth : depth < limit)
      (hget : Table.get? rulesets name = some s) :
      Asks ⟨depth, .ruleset loc name, above, e⟩ ⟨depth + 1, s, above, e⟩
  | inner {depth : Nat} {loc : Coordinate} {outer inner : Selector} {above : List Element}
      {e : Element} : Asks ⟨depth, .child loc outer inner, above, e⟩ ⟨depth, inner, above, e⟩
  | outer {depth : Nat} {loc : Coordinate} {outer inner : Selector}
      {above before farther : List Element} {e a : Element}
      (hinner : answer rulesets limit ⟨depth, inner, above, e⟩ = .ok true)
      (hpath : above = before ++ a :: farther)
      (hfarther : EachAbove (fun above a =>
        answer rulesets limit ⟨depth, outer, above, a⟩ = .ok false) farther) :
      Asks ⟨depth, .child loc outer inner, above, e⟩ ⟨depth, outer, farther, a⟩
  | left {depth : Nat} {loc : Coordinate} {left right : Selector} {above : List Element}
      {e : Element} : Asks ⟨depth, .intersection loc left right, above, e⟩ ⟨depth, left, above, e⟩
  | right {depth : Nat} {loc : Coordinate} {left right : Selector} {above : List Element}
      {e : Element} (hleft : answer rulesets limit ⟨depth, left, above, e⟩ = .ok true) :
      Asks ⟨depth, .intersection loc left right, above, e⟩ ⟨depth, right, above, e⟩
  | one {depth : Nat} {loc : Coordinate} {left right : Selector} {above : List Element}
      {e : Element} : Asks ⟨depth, .combination loc left right, above, e⟩ ⟨depth, left, above, e⟩
  | other {depth : Nat} {loc : Coordinate} {left right : Selector} {above : List Element}
      {e : Element} (hleft : answer rulesets limit ⟨depth, left, above, e⟩ = .ok false) :
      Asks ⟨depth, .combination loc left right, above, e⟩ ⟨depth, right, above, e⟩

/-- Which questions have an error for an answer by themselves, and which. -/
inductive Fails : Question → SelectorError → Prop
  | depth {depth : Nat} {loc : Coordinate} {name : String} {above : List Element} {e : Element}
      (hdepth : limit ≤ depth) :
      Fails ⟨depth, .ruleset loc name, above, e⟩ (.rulesetDepth name limit)
  | unknown {depth : Nat} {loc : Coordinate} {name : String} {above : List Element} {e : Element}
      (hdepth : depth < limit) (hget : Table.get? rulesets name = none) :
      Fails ⟨depth, .ruleset loc name, above, e⟩ (.unknownRuleset name)
  | invalid {depth : Nat} {loc : Coordinate} {text : String} {above : List Element} {e : Element} :
      Fails ⟨depth, .invalid loc text, above, e⟩ (.invalid text)

end

section

variable {rulesets : Table Selector} {limit depth : Nat} {loc : Coordinate}
  {above : List Element} {e : Element} {err : SelectorError}

/-! ### The answer in terms of answers -/

theorem answer_definition {name : String} {s : Selector} (hdepth : depth < limit)
    (hget : Table.get? rulesets name = some s) :
    answer rulesets limit ⟨depth, .ruleset loc name, above, e⟩ =
      answer rulesets limit ⟨depth + 1, s, above, e⟩ := by
  obtain ⟨levels, rfl⟩ := Nat.exists_eq_add_of_lt hdepth
  have hlevels : depth + levels + 1 - depth = levels + 1 := by omega
  have hlevels' : depth + levels + 1 - (depth + 1) = levels := by omega
  simp only [answer, matchesWith, hlevels, hlevels', resolveWithin, hget]

theorem Fails.answer_eq {q : Question} (h : q.Fails rulesets limit err) :
    q.answer rulesets limit = .error err := by
  cases h with
  | depth hdepth => simp only [answer, matchesWith, Nat.sub_eq_zero_of_le hdepth, resolveWithin]
  | @unknown depth _ _ _ _ hdepth hget =>
    obtain ⟨levels, rfl⟩ := Nat.exists_eq_add_of_lt hdepth
    have hlevels : depth + levels + 1 - depth = levels + 1 := by omega
    simp only [answer, matchesWith, hlevels, resolveWithin, hget]
  | invalid => rfl

/-- The error of a question that fails is the one that it has for an answer. -/
theorem Fails.of_answer_eq {q : Question} {err' : SelectorError}
    (h : q.Fails rulesets limit err') (herr : q.answer rulesets limit = .error err) :
    q.Fails rulesets limit err := by
  cases h.answer_eq.symm.trans herr
  exact h

/-- A question has an error for an answer if one that it asks has. -/
theorem Asks.answer_eq {q q' : Question} (h : q.Asks rulesets limit q')
    (herr : q'.answer rulesets limit = .error err) : q.answer rulesets limit = .error err := by
  cases h with
  | definition hdepth hget => rw [answer_definition hdepth hget, herr]
  | inner | left | one => exact branch_eq_error.mpr (.inl herr)
  | outer hinner hpath hfarther =>
    have hany := anyOf_eq_error.mpr ⟨_, _, _, hpath, hfarther, herr⟩
    exact branch_eq_error.mpr (.inr (.inl ⟨hinner, hany⟩))
  | right hleft => exact branch_eq_error.mpr (.inr (.inl ⟨hleft, herr⟩))
  | other hleft => exact branch_eq_error.mpr (.inr (.inr ⟨hleft, herr⟩))

/-- An error for an answer is the question's own, or it comes from a question that is asked. -/
theorem fails_or_asks {q : Question} (h : q.answer rulesets limit = .error err) :
    q.Fails rulesets limit err ∨
      ∃ q', q.Asks rulesets limit q' ∧ q'.answer rulesets limit = .error err := by
  obtain ⟨depth, s, above, e⟩ := q
  cases s with
  | ruleset loc name =>
    rcases Nat.lt_or_ge depth limit with hdepth | hdepth
    · cases hget : Table.get? rulesets name with
      | some s => exact .inr ⟨_, .definition hdepth hget, answer_definition hdepth hget ▸ h⟩
      | none => exact .inl ((Fails.unknown hdepth hget).of_answer_eq h)
    · exact .inl ((Fails.depth hdepth).of_answer_eq h)
  | child loc outer inner =>
    rcases branch_eq_error.mp h with herr | ⟨hinner, herr⟩ | ⟨_, herr⟩
    · exact .inr ⟨_, .inner, herr⟩
    · obtain ⟨before, a, farther, hpath, hfarther, herr⟩ := anyOf_eq_error.mp herr
      exact .inr ⟨_, .outer hinner hpath hfarther, herr⟩
    · cases herr
  | intersection loc left right =>
    rcases branch_eq_error.mp h with herr | ⟨hleft, herr⟩ | ⟨_, herr⟩
    · exact .inr ⟨_, .left, herr⟩
    · exact .inr ⟨_, .right hleft, herr⟩
    · cases herr
  | combination loc left right =>
    rcases branch_eq_error.mp h with herr | ⟨_, herr⟩ | ⟨hleft, herr⟩
    · exact .inr ⟨_, .one, herr⟩
    · cases herr
    · exact .inr ⟨_, .other hleft, herr⟩
  | invalid loc text =>
    cases h
    exact .inl .invalid
  | _ => cases h

end

/-! ### Questions come to an end -/

section

variable (rulesets : Table Selector) (limit : Nat)

/-- The size of a question: the levels that are left, then the selector. -/
noncomputable def size (q : Question) : Nat ×ₗ Nat :=
  toLex (limit - q.depth, sizeOf q.selector)

variable {rulesets limit}

/-- **What is asked is smaller**: a level is spent, or there is less of the selector. -/
theorem Asks.size_lt {q q' : Question} (h : q.Asks rulesets limit q') :
    q'.size limit < q.size limit := by
  rw [size, size, Prod.Lex.toLex_lt_toLex]
  cases h with
  | definition hdepth _ => exact .inl (by simp only; omega)
  | _ => exact .inr ⟨rfl, by simp +arith⟩

variable (rulesets limit)

/-- Questions do not go on for ever, whatever rulesets refer to. -/
theorem asks_wellFounded : WellFounded fun q' q => Asks rulesets limit q q' :=
  Subrelation.wf (fun h => h.size_lt) (InvImage.wf (size limit) wellFounded_lt)

/-- The elements of a path, each with the part of the path above it. -/
def stations : List Element → List (List Element × Element)
  | [] => []
  | a :: above => (above, a) :: stations above

theorem mem_stations_of_eq {path before farther : List Element} {a : Element}
    (h : path = before ++ a :: farther) : (farther, a) ∈ stations path := by
  subst h
  induction before with
  | nil => exact List.mem_cons_self
  | cons b before ih => exact List.mem_cons_of_mem _ ih

/-- What may be asked to find the answer to a question. -/
def parts : Question → List Question
  | ⟨depth, .ruleset _ name, above, e⟩ =>
    (Table.get? rulesets name).toList.map fun s => ⟨depth + 1, s, above, e⟩
  | ⟨depth, .child _ outer inner, above, e⟩ =>
    ⟨depth, inner, above, e⟩ :: (stations above).map fun x => ⟨depth, outer, x.1, x.2⟩
  | ⟨depth, .intersection _ left right, above, e⟩ | ⟨depth, .combination _ left right, above, e⟩ =>
    [⟨depth, left, above, e⟩, ⟨depth, right, above, e⟩]
  | _ => []

variable {rulesets limit}

theorem Asks.mem_parts {q q' : Question} (h : q.Asks rulesets limit q') :
    q' ∈ q.parts rulesets := by
  cases h with
  | definition _ hget => simp [parts, hget]
  | outer _ hpath _ =>
    exact List.mem_cons_of_mem _ (List.mem_map_of_mem (mem_stations_of_eq hpath))
  | _ => simp [parts]

variable (rulesets limit)

/-- Finitely many questions come from one. -/
theorem finite_asked (q : Question) :
    {q' | Relation.ReflTransGen (Asks rulesets limit) q q'}.Finite := by
  induction q using (asks_wellFounded rulesets limit).induction with
  | _ q ih =>
    have hparts : {q' | Asks rulesets limit q q'}.Finite :=
      (List.finite_toSet (q.parts rulesets)).subset fun q' h => h.mem_parts
    refine ((hparts.biUnion fun q' hq' => ih q' hq').insert q).subset fun r hr => ?_
    obtain rfl | ⟨q', hq', hr⟩ := Relation.ReflTransGen.cases_head hr
    · exact Set.mem_insert _ _
    · exact Set.mem_insert_of_mem _ (Set.mem_biUnion hq' hr)

variable {rulesets limit}

/-- **The answer to a question is an error** if it comes to a question that fails, and only then.
By induction on what is asked: an error that is not the question's own is that of one of these. -/
theorem answer_eq_error_iff {q : Question} {err : SelectorError} :
    q.answer rulesets limit = .error err ↔
      ∃ q', Relation.ReflTransGen (Asks rulesets limit) q q' ∧ q'.Fails rulesets limit err := by
  constructor
  · intro h
    induction q using (asks_wellFounded rulesets limit).induction with
    | _ q ih =>
      rcases fails_or_asks h with hfails | ⟨q', hasks, herr⟩
      · exact ⟨q, .refl, hfails⟩
      · obtain ⟨r, hr, hfails⟩ := ih q' hasks herr
        exact ⟨r, .head hasks hr, hfails⟩
  · rintro ⟨q', hreach, hfails⟩
    induction hreach using Relation.ReflTransGen.head_induction_on with
    | refl => exact hfails.answer_eq
    | head hasks _ ih => exact hasks.answer_eq ih

end

end Question

end Selector

/-! ## Candidates -/

namespace Snapshot

mutual

/-- The elements of a snapshot below a path, parents before their children, each with the path
above it. -/
def visits (above : List Element) : Snapshot → List (List Element × Element)
  | node _ e children => (above, e) :: visitsOf (e :: above) children

/-- The elements of several snapshots below a path in turn. -/
def visitsOf (above : List Element) : List Snapshot → List (List Element × Element)
  | [] => []
  | tree :: rest => visits above tree ++ visitsOf above rest

end

/-- What a selector is matched against, one after the other: the elements strictly below the
topmost one. -/
def candidates (tree : Snapshot) : List (List Element × Element) :=
  visitsOf [tree.element] tree.children

end Snapshot

namespace Selector

section

variable {α β γ : Type} {r : Except SelectorError α} {err : SelectorError}

/-- The error of an outcome. -/
def failure : Except SelectorError α → Option SelectorError
  | .ok _ => none
  | .error err => some err

theorem failure_eq_some : failure r = some err ↔ r = .error err := by
  cases r <;> simp [failure]

theorem failure_eq_none : failure r = none ↔ ∃ a, r = .ok a := by
  cases r <;> simp [failure]

/-- Two outcomes are put together, and the first error is that of both. -/
theorem failure_both {r' : Except SelectorError β} {f : α → β → γ} :
    failure (do let a ← r; let b ← r'; return f a b) = (failure r).or (failure r') := by
  cases r with
  | error err => rfl
  | ok a => cases r' <;> rfl

end

mutual

theorem failure_filterTree (test : Test) : ∀ (tree : Snapshot) (above : List Element),
    failure (filterTree test above tree) =
      (tree.visits above).findSome? fun x => failure (test x.1 x.2)
  | .node _ e children, above => by
    have hbelow := failure_filterTrees test children (e :: above)
    rw [filterTree, failure_both, hbelow, Snapshot.visits, List.findSome?_cons]
    cases failure (test above e) <;> rfl

theorem failure_filterTrees (test : Test) : ∀ (trees : List Snapshot) (above : List Element),
    failure (filterTrees test above trees) =
      (Snapshot.visitsOf above trees).findSome? fun x => failure (test x.1 x.2)
  | [], _ => rfl
  | tree :: rest, above => by
    have hfirst := failure_filterTree test tree above
    have hothers := failure_filterTrees test rest above
    rw [filterTrees, failure_both, hfirst, hothers, Snapshot.visitsOf, List.findSome?_append]

end

section

variable (rulesets : Table Selector) (limit : Nat)

/-- The matching of a selector below the topmost element of a tree comes to a question: it is
asked for one of the candidates, directly or on the way, after all of those before have an
answer. -/
def ComesTo (s : Selector) (tree : Snapshot) (q : Question) : Prop :=
  ∃ before c after, tree.candidates = before ++ c :: after ∧
    (∀ x ∈ before, ∃ b, Question.answer rulesets limit ⟨0, s, x.1, x.2⟩ = .ok b) ∧
    Relation.ReflTransGen (Question.Asks rulesets limit) ⟨0, s, c.1, c.2⟩ q

/-- **Enumerating fails** with the error of a question that it comes to. -/
theorem enumerate_eq_error_iff (s : Selector) (tree : Snapshot) (err : SelectorError) :
    s.enumerate rulesets limit tree = .error err ↔
      ∃ q, ComesTo rulesets limit s tree q ∧ q.Fails rulesets limit err := by
  obtain ⟨id, e, children⟩ := tree
  have htest : ∀ above e,
      isMatch rulesets limit s above e = Question.answer rulesets limit ⟨0, s, above, e⟩ :=
    fun _ _ => rfl
  rw [enumerate, ← failure_eq_some, failure_filterTrees, List.findSome?_eq_some_iff]
  simp only [failure_eq_some, failure_eq_none, htest, Question.answer_eq_error_iff]
  constructor
  · rintro ⟨before, c, after, hsplit, ⟨q, hq, hfails⟩, hbefore⟩
    exact ⟨q, ⟨before, c, after, hsplit, hbefore, hq⟩, hfails⟩
  · rintro ⟨q, ⟨before, c, after, hsplit, hbefore, hq⟩, hfails⟩
    exact ⟨before, c, after, hsplit, ⟨q, hq, hfails⟩, hbefore⟩

/-- **Rulesets mean their definitions**, up to the limit. Where the names that a selector refers to
are registered and nest within the limit, nothing changes when definitions take the place of all
names. In every case questions come to an end, and the whole enumeration fails exactly with the
error of a question that it comes to: a name at the limit, an unknown name below it, or an invalid
node. -/
theorem enumerate_rulesets (s : Selector) :
    (s.NestsWithin rulesets limit →
      (s.expand rulesets limit).references = [] ∧
      ∀ tree rulesets' limit', s.enumerate rulesets limit tree =
        (s.expand rulesets limit).enumerate rulesets' limit' tree) ∧
    WellFounded (fun q' q => Question.Asks rulesets limit q q') ∧
    (∀ q, {q' | Relation.ReflTransGen (Question.Asks rulesets limit) q q'}.Finite) ∧
    ∀ tree err, s.enumerate rulesets limit tree = .error err ↔
      ∃ q, ComesTo rulesets limit s tree q ∧ q.Fails rulesets limit err :=
  ⟨fun h => ⟨h.references_expand, fun tree rulesets' limit' =>
      h.enumerate_expand tree rulesets' limit'⟩,
    Question.asks_wellFounded rulesets limit, Question.finite_asked rulesets limit,
    enumerate_eq_error_iff rulesets limit s⟩

end

/-- Rulesets of which `one` refers to `two`, and `loop` to itself. -/
def nested : Table Selector :=
  [("one", .intersection .origin (.ruleset .origin "two") (.withoutClass .origin "x")),
   ("two", .ofType .origin "a"),
   ("loop", .combination .origin (.ofType .origin "a") (.ruleset .origin "loop"))]

/-- A selector with `one` in it nests two levels deep. The ruleset that refers to itself holds of
each `a` in the tree `doc > (a > (a > b, b), b)`, and fails at the limit for the `b` that is met
then. -/
theorem enumerate_rulesets_nested :
    let s : Selector := .child .origin (.ruleset .origin "one") (.wildcard .origin)
    let loop : Selector := .ruleset .origin "loop"
    let tree := (Host.ofDescription [] thicket).snapshot 0
    s.NestsWithin nested 2 ∧
      (∀ tree rulesets' limit', s.enumerate nested 2 tree =
        (s.expand nested 2).enumerate rulesets' limit' tree) ∧
      s.enumerate nested 2 tree = .ok [2, 3, 4] ∧
      (∃ q, ComesTo nested 2 loop tree q ∧ q.Fails nested 2 (.rulesetDepth "loop" 2)) := by
  intro s loop tree
  have hs : s.NestsWithin nested 2 := by
    intro name hname
    cases List.mem_singleton.mp hname
    refine ⟨_, rfl, fun name hname => ?_⟩
    cases List.mem_singleton.mp hname
    exact ⟨_, rfl, rfl⟩
  have hloop : loop.enumerate nested 2 tree = .error (.rulesetDepth "loop" 2) := rfl
  exact ⟨hs, ((enumerate_rulesets nested 2 s).1 hs).2, rfl,
    ((enumerate_rulesets nested 2 loop).2.2.2 tree _).mp hloop⟩

end Selector

end Graft
