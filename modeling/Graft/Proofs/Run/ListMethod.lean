import Graft.Proofs.Run.Change
import Graft.Proofs.Run.Trap
import Graft.Proofs.Value.Discrete
import Graft.Proofs.Value.Ordered

/-!
Methods that compare the items of a list.

`unique` goes through a list with what it has kept so far, and keeps an item that nothing kept is
equal to. An item that is dropped is equal to one that was kept, so what is kept stands for all
that has been gone through; since equality of discrete values is an equivalence, an item is kept
exactly if none before it is equal to it.

`min` and `max` go through a list with the best item so far, which gives way only to an item
that beats it. So among items that are equally good the first is kept. Whole numbers can be
compared with whole numbers and texts with texts; without doubles, there is no other order.
-/

set_option autoImplicit false

namespace Graft

/-! ## Calls without arguments -/

namespace Method

theorem named?_name (k : Method) : named? k.name = some k := by
  cases k <;> decide

/-- No method with a closure goes by the name of a method with values. -/
theorem not_named?_closure (k : Method) : ClosureMethod.named? k.name = none := by
  cases k <;> decide

end Method

/-- A method that takes no arguments answers for its receiver or fails where it is called. -/
theorem Run.callMethod_noArguments {k : Method} (hk : k.arity = (0, 0)) (enter : Enter)
    (ctx : Context) (loc : Coordinate) (receiver : Value) :
    callMethod enter ctx loc k.name receiver [] = ofExcept loc id (k.apply receiver []) := by
  have hcall : k.call receiver ⟨[], []⟩ = k.apply receiver [] := by
    rw [Method.call, hk]
    rfl
  simp only [callMethod, Inputs.ofArguments, pure_bind, k.not_named?_closure, k.named?_name, hcall]

/-! ## Repetitions -/

namespace Method

/-- At this position stands an item that none before it is equal to. -/
def IsFirst (items : List Value) (i : Nat) : Prop :=
  ∃ v, items[i]? = some v ∧ ∀ j < i, ∀ w, items[j]? = some w → w.same v = false

/-- What is kept of a list: it is a part of the list in which no two items are equal, it has an
equal of each item of the list, and it is what stands at the positions that are first of their
equals. -/
structure Represents (items kept : List Value) : Prop where
  sublist : kept.Sublist items
  apart : kept.Pairwise fun v w => v.same w = false
  covers : ∀ v ∈ items, ∃ w ∈ kept, w.same v = true
  firsts : ∃ positions : List Nat, positions.Pairwise (· < ·) ∧
    (∀ i, i ∈ positions ↔ IsFirst items i) ∧ kept.map some = positions.map (items[·]?)

theorem IsFirst.lt {items : List Value} {i : Nat} (h : IsFirst items i) : i < items.length := by
  obtain ⟨v, hv, -⟩ := h
  exact (List.getElem?_eq_some_iff.mp hv).1

/-- One more item is first of its equals if none before it is equal to it, and nothing changes
for those before. -/
theorem isFirst_append_singleton_iff {items : List Value} {v : Value} {i : Nat} :
    IsFirst (items ++ [v]) i ↔
      IsFirst items i ∨ i = items.length ∧ ∀ w ∈ items, w.same v = false := by
  have hbefore : ∀ {j : Nat}, j < items.length → (items ++ [v])[j]? = items[j]? :=
    fun hj => List.getElem?_append_left hj
  constructor
  · rintro ⟨u, hu, hnone⟩
    have hlt := (List.getElem?_eq_some_iff.mp hu).1
    rw [List.length_append, List.length_singleton] at hlt
    by_cases hi : i < items.length
    · rw [hbefore hi] at hu
      refine .inl ⟨u, hu, fun j hj w hw => hnone j hj w ?_⟩
      rwa [hbefore (hj.trans hi)]
    · obtain rfl : i = items.length := by omega
      rw [List.getElem?_concat_length] at hu
      obtain rfl := Option.some.inj hu
      refine .inr ⟨rfl, fun w hw => ?_⟩
      obtain ⟨j, hj⟩ := List.mem_iff_getElem?.mp hw
      have hlt := (List.getElem?_eq_some_iff.mp hj).1
      exact hnone j hlt w ((hbefore hlt).trans hj)
  · rintro (hfirst | ⟨rfl, hnone⟩)
    · have hi := hfirst.lt
      obtain ⟨u, hu, hnone⟩ := hfirst
      refine ⟨u, (hbefore hi).trans hu, fun j hj w hw => hnone j hj w ?_⟩
      rwa [hbefore (hj.trans hi)] at hw
    · refine ⟨v, List.getElem?_concat_length, fun j hj w hw => hnone w ?_⟩
      rw [hbefore hj] at hw
      exact List.mem_of_getElem? hw

namespace Represents

variable {items kept : List Value} {v : Value}

theorem nil : Represents [] [] where
  sublist := .slnil
  apart := .nil
  covers _ hv := nomatch hv
  firsts := by
    refine ⟨[], .nil, fun i => iff_of_false List.not_mem_nil fun h => ?_, rfl⟩
    exact Nat.not_lt_zero i h.lt

/-- An item is dropped if something kept is equal to it. -/
theorem drop (h : Represents items kept) (hv : ∃ w ∈ kept, w.same v = true) :
    Represents (items ++ [v]) kept := by
  obtain ⟨positions, hincreasing, hfirst, hthere⟩ := h.firsts
  refine ⟨h.sublist.trans (List.sublist_append_left _ _), h.apart, fun u hu => ?_,
    positions, hincreasing, fun i => ?_, ?_⟩
  · rcases List.mem_append.mp hu with hu | hu
    · exact h.covers u hu
    · obtain rfl := List.mem_singleton.mp hu
      exact hv
  · -- What it is equal to stands before it.
    rw [hfirst, isFirst_append_singleton_iff, or_iff_left]
    rintro ⟨-, hnone⟩
    obtain ⟨w, hw, hsame⟩ := hv
    rw [hnone w (h.sublist.subset hw)] at hsame
    cases hsame
  · rw [hthere]
    refine List.map_congr_left fun i hi => ?_
    exact (List.getElem?_append_left ((hfirst i).mp hi).lt).symm

/-- An item is kept if nothing kept is equal to it. -/
theorem keep (h : Represents items kept) (hitems : ∀ u ∈ items, u.Discrete) (hv : v.Discrete)
    (hnone : ∀ w ∈ kept, w.same v = false) : Represents (items ++ [v]) (kept ++ [v]) := by
  obtain ⟨positions, hincreasing, hfirst, hthere⟩ := h.firsts
  -- What is kept stands for all items before.
  have hbefore : ∀ u ∈ items, u.same v = false := by
    intro u hu
    obtain ⟨w, hw, hsame⟩ := h.covers u hu
    rw [← (hitems w (h.sublist.subset hw)).same_congr (hitems u hu) hv hsame]
    exact hnone w hw
  refine ⟨h.sublist.append_right _, ?_, fun u hu => ?_, positions ++ [items.length], ?_,
    fun i => ?_, ?_⟩
  · refine List.pairwise_append.mpr ⟨h.apart, List.pairwise_singleton _ _, fun w hw u hu => ?_⟩
    obtain rfl := List.mem_singleton.mp hu
    exact hnone w hw
  · rcases List.mem_append.mp hu with hu | hu
    · obtain ⟨w, hw, hsame⟩ := h.covers u hu
      exact ⟨w, List.mem_append_left _ hw, hsame⟩
    · obtain rfl := List.mem_singleton.mp hu
      exact ⟨u, List.mem_append_right _ List.mem_cons_self, hv.same_refl⟩
  · refine List.pairwise_append.mpr
      ⟨hincreasing, List.pairwise_singleton _ _, fun i hi j hj => ?_⟩
    obtain rfl := List.mem_singleton.mp hj
    exact ((hfirst i).mp hi).lt
  · rw [List.mem_append, List.mem_singleton, hfirst, isFirst_append_singleton_iff,
      and_iff_left hbefore]
  · rw [List.map_append, List.map_append, hthere, List.map_singleton, List.map_singleton,
      List.getElem?_concat_length]
    refine congrArg (· ++ [some v]) (List.map_congr_left fun i hi => ?_)
    exact (List.getElem?_append_left ((hfirst i).mp hi).lt).symm

/-- **Run.** What has been kept behind a list stands for the list, if it stood for what was before
at the beginning. -/
theorem uniqueOnto {rest : List Value} (h : Represents items kept)
    (hitems : ∀ u ∈ items ++ rest, u.Discrete) :
    Represents (items ++ rest) (Method.uniqueOnto kept rest) := by
  induction rest generalizing items kept with
  | nil => rwa [List.append_nil]
  | cons v rest ih =>
    have hassoc : items ++ v :: rest = (items ++ [v]) ++ rest := List.append_cons items v rest
    rw [Method.uniqueOnto]
    rw [hassoc] at hitems ⊢
    have hv : v.Discrete :=
      hitems v (List.mem_append_left _ (List.mem_append_right _ List.mem_cons_self))
    have hbefore : ∀ u ∈ items, u.Discrete :=
      fun u hu => hitems u (List.mem_append_left _ (List.mem_append_left _ hu))
    by_cases hany : (kept.any fun w => w.same v) = true
    · rw [if_pos hany]
      exact ih (h.drop (List.any_eq_true.mp hany)) hitems
    · rw [if_neg hany]
      rw [Bool.not_eq_true, List.any_eq_false] at hany
      exact ih (h.keep hbefore hv fun w hw => Bool.not_eq_true _ ▸ hany w hw) hitems

/-- What is kept has exactly one equal of each item. -/
theorem exactlyOne (h : Represents items kept) (hitems : ∀ u ∈ items, u.Discrete)
    (hv : v ∈ items) : ∃ w, kept.filter (fun u => u.same v) = [w] := by
  have hapart := h.apart.sublist (List.filter_sublist (p := fun u => u.same v))
  have hequal : ∀ u ∈ kept.filter (fun u => u.same v), u.Discrete ∧ u.same v = true := by
    intro u hu
    obtain ⟨hmem, hsame⟩ := List.mem_filter.mp hu
    exact ⟨hitems u (h.sublist.subset hmem), hsame⟩
  obtain ⟨w, hw, hsame⟩ := h.covers v hv
  have hmem : w ∈ kept.filter (fun u => u.same v) := List.mem_filter.mpr ⟨hw, hsame⟩
  generalize kept.filter (fun u => u.same v) = equals at hapart hequal hmem
  match equals with
  | [] => cases hmem
  | [u] => exact ⟨u, rfl⟩
  | a :: b :: _ =>
    -- Two of them would be equal to each other.
    obtain ⟨ha, hav⟩ := hequal a List.mem_cons_self
    obtain ⟨hb, hbv⟩ := hequal b (List.mem_cons_of_mem _ List.mem_cons_self)
    have hab := ha.same_trans (hitems v hv) hb hav (hb.same_symm (hitems v hv) hbv)
    rw [List.rel_of_pairwise_cons hapart List.mem_cons_self] at hab
    cases hab

end Represents

/-- Nothing is dropped where no two items are equal. -/
theorem uniqueOnto_of_apart {kept rest : List Value}
    (h : (kept ++ rest).Pairwise fun v w => v.same w = false) :
    uniqueOnto kept rest = kept ++ rest := by
  induction rest generalizing kept with
  | nil => rw [uniqueOnto, List.append_nil]
  | cons v rest ih =>
    have hnone : ¬ (kept.any fun w => w.same v) = true := by
      rw [Bool.not_eq_true, List.any_eq_false]
      intro w hw
      rw [(List.pairwise_append.mp h).2.2 w hw v List.mem_cons_self]
      exact Bool.false_ne_true
    rw [List.append_cons] at h ⊢
    rw [uniqueOnto, if_neg hnone]
    exact ih h

end Method

/-- **`unique` removes exactly the repetitions.** Of a list of discrete values it keeps a part in
which no two items are equal and which has exactly one equal of each item, namely what stands at
the positions that are first of their equals. Done again it keeps all. The order in which objects
list their entries makes no difference. -/
theorem Run.callMethod_unique {items : List Value} (h : (Value.list items).Discrete)
    (enter : Enter) (ctx : Context) (loc : Coordinate) :
    let unique (vs : List Value) : Run Value := callMethod enter ctx loc "unique" (.list vs) []
    ∃ kept : List Value,
      (∀ m, unique items m = .ok (.list kept) m) ∧ kept.Sublist items ∧
      (kept.Pairwise fun v w => v.same w = false ∧ w.same v = false) ∧
      (∀ v ∈ items, ∃ w, kept.filter (fun u => u.same v) = [w]) ∧
      (∃ positions : List Nat, positions.Pairwise (· < ·) ∧
        (∀ i, i ∈ positions ↔ Method.IsFirst items i) ∧
        kept.map some = positions.map (items[·]?)) ∧
      (∀ m, unique kept m = .ok (.list kept) m) ∧
      ∀ s s' t t' : Table Value, (Value.object s).Discrete → (Value.object t).Discrete →
        s'.Perm s → t'.Perm t →
        (Value.object s').same (.object t') = (Value.object s).same (.object t) := by
  intro unique
  have hitems := Value.discrete_list_iff.mp h
  have hunique : ∀ vs m, unique vs m = .ok (.list (Method.uniqueItems vs)) m := by
    intro vs m
    show callMethod enter ctx loc Method.unique.name (.list vs) [] m = _
    rw [callMethod_noArguments rfl]
    rfl
  have hkept : Method.Represents items (Method.uniqueItems items) :=
    Method.Represents.nil.uniqueOnto hitems
  refine ⟨Method.uniqueItems items, hunique items, hkept.sublist, ?_,
    fun v hv => hkept.exactlyOne hitems hv, hkept.firsts, fun m => ?_,
    fun s s' t t' hs ht h h' => hs.same_perm ht h h'⟩
  · refine hkept.apart.imp_of_mem fun {v w} hv hw hvw => ⟨hvw, ?_⟩
    rw [(hitems w (hkept.sublist.subset hw)).same_comm (hitems v (hkept.sublist.subset hv))]
    exact hvw
  · have hagain : Method.uniqueItems (Method.uniqueItems items) = Method.uniqueItems items :=
      Method.uniqueOnto_of_apart hkept.apart
    rw [hunique, hagain]

/-- An object that lists its entries the other way round is a repetition. -/
theorem Run.callMethod_unique_reordered :
    let s : Table Value := [("a", .int 1), ("b", .null)]
    let t : Table Value := [("b", .null), ("a", .int 1)]
    let items : List Value := [.object s, .int 1, .object t, .int 1]
    let enter : Enter := fun _ _ _ _ _ _ => pure .next
    let m := (Machine.start (Host.empty [])).2
    (Value.list items).Discrete ∧
      callMethod enter default .origin "unique" (.list items) [] m =
        .ok (.list [.object s, .int 1]) m ∧
      (Value.object s).same (.object t) = true ∧
      ∃ w, [Value.object s, .int 1].filter (fun u => u.same (.object t)) = [w] := by
  intro s t items enter m
  have hitems : (Value.list items).Discrete := by
    constructor
    · simp [items, s, t, Value.Distinct, Value.DistinctItems, Value.DistinctEntries, Table.Distinct,
        Table.names]
    · simp [items, s, t, Value.FloatFree, Value.FloatFreeItems, Value.FloatFreeEntries]
  obtain ⟨kept, hkept, -, -, hone, -, -, hsame⟩ := callMethod_unique hitems enter default .origin
  have hrun : callMethod enter default .origin "unique" (.list items) [] m =
      .ok (.list [.object s, .int 1]) m := rfl
  cases (hkept m).symm.trans hrun
  have hs : (Value.object s).Discrete := Value.discrete_list_iff.mp hitems _ List.mem_cons_self
  have hreordered : (Value.object s).same (.object t) = (Value.object s).same (.object s) :=
    hsame s s s t hs hs (.refl s) (.swap _ _ _)
  exact ⟨hitems, hrun, hreordered.trans hs.same_refl, hone (.object t) (by simp [items])⟩

/-! ## The least and the greatest item -/

namespace Method

open Value

/-- What a method looks for: an item that stands in this relation to every item. -/
inductive Seeks : Method → (Value → Value → Prop) → Prop
  | min : Seeks .min AtMost
  | max : Seeks .max fun v w => AtMost w v

/-- The earliest item that stands in a relation to every item. -/
def IsEarliest (R : Value → Value → Prop) (items : List Value) (v : Value) : Prop :=
  ∃ i : Nat, items[i]? = some v ∧ (∀ w ∈ items, R v w) ∧
    ∀ j < i, ∀ u, items[j]? = some u → ¬ ∀ w ∈ items, R u w

section

variable {K : Value → Prop} {R : Value → Value → Prop} {beats : Ordering}
  {items rest : List Value} {best v : Value}

/-- A single item is the earliest. -/
theorem isEarliest_singleton (hR : Ranks beats R) (hK : Ordered K) (hv : K v) :
    IsEarliest R [v] v := by
  refine ⟨0, rfl, fun w hw => ?_, fun j hj => absurd hj (Nat.not_lt_zero j)⟩
  obtain rfl := List.mem_singleton.mp hw
  exact (hR.total hK hv hv).elim id id

theorem IsEarliest.mem (h : IsEarliest R items v) : v ∈ items := by
  obtain ⟨i, hi, -⟩ := h
  exact List.mem_of_getElem? hi

/-- The best item stays where one more item is not better. -/
theorem IsEarliest.stay (h : IsEarliest R items best) (hv : R best v) :
    IsEarliest R (items ++ [v]) best := by
  obtain ⟨i, hi, hall, hnone⟩ := h
  have hlt := (List.getElem?_eq_some_iff.mp hi).1
  refine ⟨i, (List.getElem?_append_left hlt).trans hi, fun w hw => ?_, fun j hj u hu hbest => ?_⟩
  · rcases List.mem_append.mp hw with hw | hw
    · exact hall w hw
    · obtain rfl := List.mem_singleton.mp hw
      exact hv
  · rw [List.getElem?_append_left (hj.trans hlt)] at hu
    exact hnone j hj u hu fun w hw => hbest w (List.mem_append_left _ hw)

/-- The best item gives way to one that is better: that is not behind any item before, and each
of these is behind it. -/
theorem IsEarliest.giveWay (hR : Ranks beats R) (hK : Ordered K) (hitems : ∀ w ∈ items, K w)
    (hKv : K v) (h : IsEarliest R items best) (hv : ¬ R best v) :
    IsEarliest R (items ++ [v]) v := by
  have hbetter : R v best := (hR.total hK hKv (hitems best h.mem)).resolve_right hv
  have hself : R v v := (hR.total hK hKv hKv).elim id id
  obtain ⟨i, hi, hall, -⟩ := h
  refine ⟨items.length, List.getElem?_concat_length, fun w hw => ?_, fun j hj u hu hbest => ?_⟩
  · rcases List.mem_append.mp hw with hw | hw
    · exact hR.trans hbetter (hall w hw)
    · obtain rfl := List.mem_singleton.mp hw
      exact hself
  · -- An earlier item as good as this one would make the best one as good.
    rw [List.getElem?_append_left hj] at hu
    have huv : R u v := hbest v (List.mem_append_right _ List.mem_cons_self)
    exact hv (hR.trans (hall u (List.mem_of_getElem? hu)) huv)

/-- **Run.** Where all items are of one ordered kind, what is left as the best item is the
earliest of the best. -/
theorem extremeFrom_ok (hR : Ranks beats R) (hK : Ordered K) (hall : ∀ w ∈ items ++ rest, K w)
    (h : IsEarliest R items best) :
    ∃ v, extremeFrom beats best rest = .ok v ∧ IsEarliest R (items ++ rest) v := by
  induction rest generalizing items best with
  | nil => exact ⟨best, rfl, by rwa [List.append_nil]⟩
  | cons v rest ih =>
    have hitems : ∀ w ∈ items, K w := fun w hw => hall w (List.mem_append_left _ hw)
    have hv : K v := hall v (List.mem_append_right _ List.mem_cons_self)
    rw [List.append_cons] at hall ⊢
    obtain ⟨o, ho, hbeats⟩ := hR.order hK hv (hitems best h.mem)
    simp only [extremeFrom, ho]
    by_cases hlead : o = beats
    · rw [if_pos hlead]
      exact ih hall (h.giveWay hR hK hitems hv (hbeats.mp hlead))
    · rw [if_neg hlead]
      exact ih hall (h.stay (not_not.mp fun hnot => hlead (hbeats.mpr hnot)))

/-- If there is an answer, all items are of the kind of the best one. -/
theorem ordered_of_extremeFrom (hK : Ordered K) (hbest : K best) (hfree : best.FloatFree)
    (hrest : FloatFreeItems rest) (h : extremeFrom beats best rest = .ok v) :
    ∀ w ∈ rest, K w := by
  induction rest generalizing best with
  | nil => nofun
  | cons w rest ih =>
    rw [extremeFrom] at h
    split at h
    · rename_i o ho
      obtain ⟨L, hL, hw, hbest'⟩ := Ordered.of_order hrest.1 hfree ho
      obtain rfl := hL.eq_of_mem hK hbest' hbest
      refine List.forall_mem_cons.mpr ⟨hw, ?_⟩
      by_cases hlead : o = beats
      · rw [if_pos hlead] at h
        exact ih hw hrest.1 hrest.2 h
      · rw [if_neg hlead] at h
        exact ih hbest hfree hrest.2 h
    · cases h

theorem trouble_of_extremeFrom {cause : Cause} (h : extremeFrom beats best rest = .error cause) :
    cause.trouble = .type := by
  induction rest generalizing best with
  | nil => cases h
  | cons w rest ih =>
    rw [extremeFrom] at h
    split at h
    · exact ih h
    · rename_i e he
      cases h
      exact trouble_of_order he

/-- An answer for two or more items without doubles shows that they are of one kind. -/
theorem oneOrder_of_extreme (hfree : FloatFreeItems items) (hlength : 2 ≤ items.length)
    (h : extreme beats items = .ok v) : OneOrder items := by
  match items with
  | [] | [_] => simp at hlength
  | a :: b :: rest =>
    obtain ⟨ha, hothers⟩ := hfree
    -- The first comparison settles the kind.
    have hfound : ∃ o, order .lessThan b a = .ok o := by
      cases ho : order .lessThan b a with
      | ok o => exact ⟨o, rfl⟩
      | error e =>
        rw [extreme, extremeFrom, ho] at h
        cases h
    obtain ⟨o, ho⟩ := hfound
    obtain ⟨K, hK, -, hKa⟩ := Ordered.of_order hothers.1 ha ho
    have hall := ordered_of_extremeFrom hK hKa ha hothers h
    exact oneOrder_iff.mpr ⟨K, hK, List.forall_mem_cons.mpr ⟨hKa, hall⟩⟩

theorem extreme_ok (hR : Ranks beats R) (h : OneOrder items) (hitems : items ≠ []) :
    ∃ v, extreme beats items = .ok v ∧ IsEarliest R items v := by
  obtain ⟨K, hK, hall⟩ := oneOrder_iff.mp h
  obtain ⟨v, rest, rfl⟩ := List.exists_cons_of_ne_nil hitems
  exact extremeFrom_ok hR hK hall (isEarliest_singleton hR hK (hall v List.mem_cons_self))

theorem trouble_of_extreme {cause : Cause} (h : extreme beats items = .error cause) :
    cause.trouble = .type := by
  cases items with
  | nil => cases h
  | cons v rest => exact trouble_of_extremeFrom h

end

theorem Seeks.ranks {k : Method} {R : Value → Value → Prop} (h : Seeks k R) :
    ∃ beats, Ranks beats R ∧ k.arity = (0, 0) ∧
      ∀ items, k.apply (.list items) [] = extreme beats items := by
  cases h with
  | min => exact ⟨.lt, .least, rfl, fun _ => rfl⟩
  | max => exact ⟨.gt, .greatest, rfl, fun _ => rfl⟩

end Method

/-- **`min` and `max` find the earliest best item.** Of no items they make nothing, and of one item
that item. Of two or more items without doubles they fail for their types, exactly unless all
are whole numbers or all are texts. Then the answer is the earliest item that is at most, or at
least, every item. -/
theorem Run.callMethod_extreme {k : Method} {R : Value → Value → Prop} (hk : k.Seeks R)
    {items : List Value} (hfree : Value.FloatFreeItems items) (enter : Enter) (ctx : Context)
    (loc : Coordinate) :
    let answer (vs : List Value) : Run Value := callMethod enter ctx loc k.name (.list vs) []
    (∀ m, answer [] m = .ok .null m) ∧ (∀ v m, answer [v] m = .ok v m) ∧
    (2 ≤ items.length → ∀ m,
      (∃ f : Failure, answer items m = .error (.failed f) m ∧ f.loc = loc ∧
        f.cause.trouble = .type) ↔ ¬ Value.OneOrder items) ∧
    (2 ≤ items.length → Value.OneOrder items →
      ∃ v, (∀ m, answer items m = .ok v m) ∧ Method.IsEarliest R items v) := by
  intro answer
  obtain ⟨beats, hR, harity, happly⟩ := hk.ranks
  have hanswer : ∀ vs, answer vs = ofExcept loc id (Method.extreme beats vs) := by
    intro vs
    rw [← happly]
    exact callMethod_noArguments harity enter ctx loc (.list vs)
  have hfound : 2 ≤ items.length → Value.OneOrder items →
      ∃ v, (∀ m, answer items m = .ok v m) ∧ Method.IsEarliest R items v := by
    intro hlength hone
    obtain ⟨v, hv, hearliest⟩ := Method.extreme_ok hR hone (List.ne_nil_of_length_pos (by omega))
    refine ⟨v, fun m => ?_, hearliest⟩
    rw [hanswer, hv]
    rfl
  refine ⟨fun m => ?_, fun v m => ?_, fun hlength m => ⟨?_, fun hnot => ?_⟩, hfound⟩
  · rw [hanswer]
    rfl
  · rw [hanswer]
    rfl
  · rintro ⟨f, hf, -⟩ hone
    obtain ⟨v, hv, -⟩ := hfound hlength hone
    rw [hv] at hf
    cases hf
  · cases hextreme : Method.extreme beats items with
    | ok v => exact absurd (Method.oneOrder_of_extreme hfree hlength hextreme) hnot
    | error cause =>
      have htrouble := Method.trouble_of_extreme hextreme
      have hplain := Plain.extreme beats items
      rw [hextreme] at hplain
      have htrap : cause ≠ .operator .trap := Cause.ne_trap_of_isPlain hplain
      refine ⟨⟨loc, cause⟩, ?_, rfl, htrouble⟩
      rw [hanswer, hextreme]
      exact congrFun (congrArg throw (if_neg htrap)) m

/-- Of texts, `min` finds the one whose bytes come first, wherever it stands, and a whole number
among them is not compared with them. -/
theorem Run.callMethod_extreme_texts :
    let enter : Enter := fun _ _ _ _ _ _ => pure .next
    let m := (Machine.start (Host.empty [])).2
    let least (vs : List Value) : Run Value := callMethod enter default .origin "min" (.list vs) []
    least [.string "b", .string "ab", .string "é", .string "ab"] m = .ok (.string "ab") m ∧
      Method.IsEarliest Value.AtMost
        [.string "b", .string "ab", .string "é", .string "ab"] (.string "ab") ∧
      ∃ f : Failure, least [.string "b", .string "ab", .int 1] m = .error (.failed f) m ∧
        f.cause.trouble = .type := by
  intro enter m least
  let texts : List Value := [.string "b", .string "ab", .string "é", .string "ab"]
  let mixed : List Value := [.string "b", .string "ab", .int 1]
  have htexts : Value.FloatFreeItems texts := ⟨trivial, trivial, trivial, trivial, trivial⟩
  have hmixed : Value.FloatFreeItems mixed := ⟨trivial, trivial, trivial, trivial⟩
  obtain ⟨-, -, -, hfound⟩ := callMethod_extreme .min htexts enter default .origin
  obtain ⟨-, -, hfails, -⟩ := callMethod_extreme .min hmixed enter default .origin
  have hleast : least texts m = .ok (.string "ab") m := rfl
  obtain ⟨v, hv, hearliest⟩ := hfound (by decide) (.inr ⟨["b", "ab", "é", "ab"], rfl⟩)
  cases (hv m).symm.trans hleast
  refine ⟨hleast, hearliest, ?_⟩
  have hnot : ¬ Value.OneOrder mixed := by
    rintro (⟨ns, hns⟩ | ⟨ss, hss⟩)
    · simp [mixed, List.map_eq_cons_iff, eq_comm] at hns
    · simp [mixed, List.map_eq_cons_iff, eq_comm] at hss
  obtain ⟨f, hf, -, htrouble⟩ := (hfails (by decide) m).mpr hnot
  exact ⟨f, hf, htrouble⟩

end Graft
