import Graft.Proofs.Host.Walk
import Graft.Proofs.Selector.Enumerate

/-!
What a selector means.

A selector says something of an element and the path above it, by recursion on the selector
and without reference to how elements are looked for. What is enumerated below a scope is
what the walk below the scope meets and the selector holds of. The path ends with the scope,
so nothing above it counts.
-/

set_option autoImplicit false

namespace Graft.Selector

/-- A selector without references to rulesets and without invalid nodes. -/
def SelfContained : Selector → Prop
  | ofType _ _ => True
  | withName _ _ => True
  | withClass _ _ => True
  | ruleset _ _ => False
  | wildcard _ => True
  | withoutClass _ _ => True
  | withoutName _ _ => True
  | child _ above below => above.SelfContained ∧ below.SelfContained
  | intersection _ left right => left.SelfContained ∧ right.SelfContained
  | combination _ left right => left.SelfContained ∧ right.SelfContained
  | addition _ _ => True
  | invalid _ _ => False

/-- Something holds of one of the elements of a path, seen with the part of the path above
it. -/
def SomeAbove (P : List Element → Element → Prop) (path : List Element) : Prop :=
  ∃ before a above, path = before ++ a :: above ∧ P above a

/-- What a selector says of an element below a path. Nothing is said of what a ruleset or an
invalid node stands for. -/
def Holds : Selector → (path : List Element) → Element → Prop
  | ofType _ type, _, e => e.type = type
  | withName _ name, _, e => e.name = some name
  | withClass _ tag, _, e => tag ∈ e.classes
  | ruleset _ _, _, _ => False
  | wildcard _, _, _ => True
  | withoutClass _ tag, _, e => tag ∉ e.classes
  | withoutName _ name, _, e => e.name ≠ some name
  | child _ outer inner, path, e => Holds inner path e ∧ SomeAbove (Holds outer) path
  | intersection _ left right, path, e => Holds left path e ∧ Holds right path e
  | combination _ left right, path, e => Holds left path e ∨ Holds right path e
  | addition _ _, _, _ => False
  | invalid _ _, _, _ => False

/-! ## Somewhere above -/

section

variable {P : List Element → Element → Prop} {a : Element} {path : List Element}

@[simp] theorem not_someAbove_nil : ¬ SomeAbove P [] := by
  rintro ⟨before, a, above, hpath, _⟩
  cases before with
  | nil => cases hpath
  | cons b before => cases hpath

/-- The nearest element of a path is one of it, and the others are those of the rest. -/
@[simp] theorem someAbove_cons : SomeAbove P (a :: path) ↔ P path a ∨ SomeAbove P path := by
  constructor
  · rintro ⟨before, b, above, hpath, hb⟩
    cases before with
    | nil =>
      cases hpath
      exact .inl hb
    | cons c before =>
      cases hpath
      exact .inr ⟨before, b, above, rfl, hb⟩
  · rintro (ha | ⟨before, b, above, rfl, hb⟩)
    · exact ⟨[], a, path, rfl, ha⟩
    · exact ⟨a :: before, b, above, rfl, hb⟩

/-- Whether something holds on a path is found out from one end of the path to the other. -/
instance decidableSomeAbove [∀ above a, Decidable (P above a)] :
    ∀ path : List Element, Decidable (SomeAbove P path)
  | [] => .isFalse not_someAbove_nil
  | _ :: path =>
    have := decidableSomeAbove path
    decidable_of_iff _ someAbove_cons.symm

end

instance decidableHolds : ∀ (s : Selector) (path : List Element) (e : Element),
    Decidable (s.Holds path e)
  | ofType _ type, _, e => inferInstanceAs (Decidable (e.type = type))
  | withName _ name, _, e => inferInstanceAs (Decidable (e.name = some name))
  | withClass _ tag, _, e => inferInstanceAs (Decidable (tag ∈ e.classes))
  | ruleset _ _, _, _ => .isFalse id
  | wildcard _, _, _ => .isTrue trivial
  | withoutClass _ tag, _, e => inferInstanceAs (Decidable (tag ∉ e.classes))
  | withoutName _ name, _, e => inferInstanceAs (Decidable (e.name ≠ some name))
  | child _ outer inner, path, e =>
    have := decidableHolds outer
    have := decidableHolds inner path e
    inferInstanceAs (Decidable (inner.Holds path e ∧ SomeAbove outer.Holds path))
  | intersection _ left right, path, e =>
    have := decidableHolds left path e
    have := decidableHolds right path e
    inferInstanceAs (Decidable (left.Holds path e ∧ right.Holds path e))
  | combination _ left right, path, e =>
    have := decidableHolds left path e
    have := decidableHolds right path e
    inferInstanceAs (Decidable (left.Holds path e ∨ right.Holds path e))
  | addition _ _, _, _ => .isFalse id
  | invalid _ _, _, _ => .isFalse id

/-! ## What matching finds out -/

/-- A test has an answer for every element: whether something holds of it. -/
def Test.Decides (test : Test) (P : List Element → Element → Prop) : Prop :=
  ∀ path e, ∃ b, test path e = .ok b ∧ (b = true ↔ P path e)

/-- Along a path, the test finds out whether something holds of one of its elements. -/
theorem Test.Decides.anyOf {test : Test} {P : List Element → Element → Prop}
    (htest : test.Decides P) (path : List Element) :
    ∃ b, anyOf test path = .ok b ∧ (b = true ↔ SomeAbove P path) := by
  induction path with
  | nil => exact ⟨false, rfl, by simp⟩
  | cons a path ih =>
    obtain ⟨b, hb, hiff⟩ := ih
    simp only [Selector.anyOf, hb, someAbove_cons]
    cases b with
    | true => exact ⟨true, rfl, by simp [← hiff]⟩
    | false =>
      -- Only the nearest element is left to be asked.
      obtain ⟨b, hb, hiff'⟩ := htest path a
      exact ⟨b, hb, by simp [← hiff, hiff']⟩

/-- **Matching finds out what a selector says.** -/
theorem SelfContained.decides (resolve : String → Test) {s : Selector} (hs : s.SelfContained) :
    Test.Decides (s.matchesWith resolve) s.Holds := by
  intro path e
  induction s generalizing path e with
  | ruleset => exact hs.elim
  | invalid => exact hs.elim
  | ofType loc type => exact ⟨_, rfl, by simp [Holds]⟩
  | withName loc name => exact ⟨_, rfl, by simp [Holds]⟩
  | withClass loc tag => exact ⟨_, rfl, by simp [Holds]⟩
  | wildcard loc => exact ⟨_, rfl, by simp [Holds]⟩
  | withoutClass loc tag => exact ⟨_, rfl, by simp [Holds]⟩
  | withoutName loc name => exact ⟨_, rfl, by simp [Holds]⟩
  | addition loc type => exact ⟨_, rfl, by simp [Holds]⟩
  | child loc outer inner ihouter ihinner =>
    obtain ⟨b, hb, hiff⟩ := ihinner hs.2 path e
    simp only [matchesWith, Holds, hb]
    cases b with
    | false => exact ⟨false, rfl, by simp [← hiff]⟩
    | true =>
      obtain ⟨b, hb, hiff'⟩ := Test.Decides.anyOf (ihouter hs.1) path
      exact ⟨b, hb, by simp [← hiff, hiff']⟩
  | intersection loc left right ihleft ihright =>
    obtain ⟨b, hb, hiff⟩ := ihleft hs.1 path e
    simp only [matchesWith, Holds, hb]
    cases b with
    | false => exact ⟨false, rfl, by simp [← hiff]⟩
    | true =>
      obtain ⟨b, hb, hiff'⟩ := ihright hs.2 path e
      exact ⟨b, hb, by simp [← hiff, hiff']⟩
  | combination loc left right ihleft ihright =>
    obtain ⟨b, hb, hiff⟩ := ihleft hs.1 path e
    simp only [matchesWith, Holds, hb]
    cases b with
    | true => exact ⟨true, rfl, by simp [← hiff]⟩
    | false =>
      obtain ⟨b, hb, hiff'⟩ := ihright hs.2 path e
      exact ⟨b, hb, by simp [← hiff, hiff']⟩

/-! ## What is enumerated -/

section

variable {h : Host} {P : List Element → Element → Prop} [∀ path e, Decidable (P path e)]

/-- What a walk meets and something holds of, in the order of the walk. -/
def satisfying (h : Host) (P : List Element → Element → Prop) [∀ path e, Decidable (P path e)]
    (walk : List (List ElementId × ElementId)) : List ElementId :=
  (walk.filter fun x => decide (P (x.1.map h.get) (h.get x.2))).map Prod.snd

theorem satisfying_cons (path : List ElementId) (id : ElementId)
    (inner others : List (List ElementId × ElementId)) :
    satisfying h P ((path, id) :: inner ++ others) =
      (if P (path.map h.get) (h.get id) then id :: satisfying h P inner
        else satisfying h P inner) ++ satisfying h P others := by
  simp only [satisfying, List.cons_append, List.filter_cons, List.filter_append,
    decide_eq_true_eq]
  split
  · simp
  · simp

/-- The test of snapshots that reach down far enough keeps what the walk meets and something
holds of. -/
theorem filterTrees_eq_satisfying (hh : h.Consistent) {test : Test} (htest : test.Decides P)
    {path ids : List ElementId} {walk : List (List ElementId × ElementId)}
    (hw : h.Walk path ids walk) {depth : Nat} (hids : ∀ id ∈ ids, id < h.elements.size)
    (hdepth : ∀ id ∈ ids, h.elements.size ≤ depth + id) :
    filterTrees test (path.map h.get) (ids.map (h.snapshotWithin depth)) =
      .ok (satisfying h P walk) := by
  induction hw generalizing depth with
  | nil => rfl
  | @cons path rest id inner others _ _ ihinner ihothers =>
    have hothers := ihothers (fun c hc => hids c (List.mem_cons_of_mem _ hc))
      fun c hc => hdepth c (List.mem_cons_of_mem _ hc)
    have hsize := hdepth id List.mem_cons_self
    cases depth with
    | zero =>
      -- The numbers of the elements are below the size of the store.
      rw [Nat.zero_add] at hsize
      exact absurd (hids id List.mem_cons_self) (Nat.not_lt.mpr hsize)
    | succ depth =>
      have hinner := ihinner (fun c hc => (hh.mem_children_iff.mp hc).1) (hh.deep_enough hsize)
      obtain ⟨b, hb, hiff⟩ := htest (path.map h.get) (h.get id)
      have hfirst : filterTree test (path.map h.get) (h.snapshotWithin (depth + 1) id) =
          .ok (if b = true then id :: satisfying h P inner else satisfying h P inner) := by
        rw [List.map_cons] at hinner
        simp only [Host.snapshotWithin, filterTree, hb, hinner]
        rfl
      rw [List.map_cons, filterTrees, hfirst, hothers, satisfying_cons]
      simp only [hiff]
      rfl

end

/-- **Selection has a declarative meaning.** In every host that operations make from that of a
described tree, and below every element of it, a selector without rulesets and invalid nodes
enumerates exactly what it holds of, in the order of the walk down, each element once. The walk
meets exactly what ways down from the scope lead to, each element with the path that ends with
the scope. -/
theorem enumerate_eq_satisfying {kinds : Kinds} {d : Description} {h : Host}
    (hr : Host.Reached (Host.ofDescription kinds d) h) {scope : ElementId}
    (hscope : scope < h.elements.size) {s : Selector} (hs : s.SelfContained)
    (rulesets : Table Selector) (limit : Nat) :
    ∃ walk, h.Walk [scope] (h.get scope).children walk ∧
      (∀ path id, (path, id) ∈ walk ↔ h.Descent scope path id) ∧
      (walk.map Prod.snd).Nodup ∧
      s.enumerate rulesets limit (h.snapshot scope) =
        .ok ((walk.filter fun x => s.Holds (x.1.map h.get) (h.get x.2)).map Prod.snd) := by
  have hh := hr.consistent (Host.consistent_ofDescription kinds d)
  obtain ⟨walk, hw⟩ := hh.exists_walk [scope] (h.get scope).children
  have hchildren : ∀ c ∈ (h.get scope).children, (h.get c).parent = some scope :=
    fun c hc => (hh.mem_children_iff.mp hc).2.1
  refine ⟨walk, hw, hw.mem_iff_descent,
    hh.nodup_walk hw (hh.nodup_children scope) hchildren, ?_⟩
  -- The snapshot is as deep as the store is large, and one level is spent on the scope.
  obtain ⟨depth, hsize⟩ : ∃ depth, h.elements.size = depth + 1 :=
    Nat.exists_eq_add_one.mpr (Nat.lt_of_le_of_lt (Nat.zero_le scope) hscope)
  unfold Host.snapshot
  rw [hsize, Host.snapshotWithin, enumerate]
  refine filterTrees_eq_satisfying hh (hs.decides _) hw
    (fun c hc => (hh.mem_children_iff.mp hc).1) fun c hc => ?_
  have hgt : scope < c := hh.ordered c scope (hchildren c hc)
  rw [hsize]
  exact Nat.add_le_add_left (Nat.lt_of_le_of_lt (Nat.zero_le scope) hgt) depth

/-- The tree `doc > (a > (a > b, b), b)`. -/
def thicket : Description :=
  let b : Description := .mk "b" none [] .null [] false
  let inner : Description := .mk "a" none [] .null [b] false
  .mk "doc" none [] .null [.mk "a" none [] .null [inner, b] false, b] false

/-- What the scope is below does not count: from the outer `a`, which has been deleted, the
selector looks for each `b` below an `a` that is below an `a`, the scope included. -/
theorem enumerate_eq_satisfying_thicket :
    let start := Host.ofDescription [] thicket
    let h := start.detached 0 1
    let s : Selector := .child .origin (.child .origin (.ofType .origin "a") (.ofType .origin "a"))
      (.ofType .origin "b")
    start.delete [0] 1 = .ok h ∧ 1 < h.elements.size ∧ s.SelfContained ∧
      ∃ walk, h.Walk [1] (h.get 1).children walk ∧
        (∀ path id, (path, id) ∈ walk ↔ h.Descent 1 path id) ∧ (walk.map Prod.snd).Nodup ∧
        s.enumerate [] 16 (h.snapshot 1) =
          .ok ((walk.filter fun x => s.Holds (x.1.map h.get) (h.get x.2)).map Prod.snd) := by
  intro start h s
  have hdelete : start.delete [0] 1 = .ok h := rfl
  have hscope : 1 < h.elements.size := by decide
  have hs : s.SelfContained := ⟨⟨trivial, trivial⟩, trivial⟩
  exact ⟨hdelete, hscope, hs,
    enumerate_eq_satisfying (.delete .start hdelete) hscope hs [] 16⟩

example :
    let s : Selector := .child .origin (.child .origin (.ofType .origin "a") (.ofType .origin "a"))
      (.ofType .origin "b")
    let h := (Host.ofDescription [] thicket).detached 0 1
    s.enumerate [] 16 (h.snapshot 1) = .ok [3] ∧ s.enumerate [] 16 (h.snapshot 2) = .ok [] :=
  ⟨rfl, rfl⟩

end Graft.Selector
