import Mathlib.Data.List.Nodup
import Graft.Run.Argument

/-!
How arguments fill slots.

An argument without a name is for the parameter whose position is the number of arguments without
a name before it, and a named one is for the first parameter of its name. Which argument is for
which parameter can so be told from the arguments alone, and so can what is wrong with them:
`Fits` says that nothing is, short of a parameter that gets nothing.

Filling goes through the arguments in turn. `Slots.behind` is where it has come to behind some of
them, and one step either gets one argument further or meets the first that does not fit.
-/

set_option autoImplicit false

namespace Graft

/-- An evaluated argument that is a value. -/
structure Given where
  loc : Coordinate
  name : Option String
  value : Value

namespace Given

/-- It is an argument. -/
def argument (g : Given) : Argument :=
  ⟨g.loc, g.name, .value g.value⟩

/-- The position of the parameter that a named argument is for, with the value for it. -/
def aim (params : List Param) (g : Given) : Option (Nat × Value) :=
  (g.name.bind fun name => params.findIdx? fun q => q.name == name).map fun i => (i, g.value)

/-- How many arguments have no name. -/
def positional (args : List Given) : Nat :=
  args.countP fun g => g.name.isNone

end Given

/-- The positions that arguments fill, with the values that fill them. The first argument without
a name is for the position `next`. What is for no parameter is left out. -/
def placements (params : List Param) : (next : Nat) → List Given → List (Nat × Value)
  | _, [] => []
  | next, g :: rest =>
    if g.name.isNone then (next, g.value) :: placements params (next + 1) rest
    else (g.aim params).toList ++ placements params next rest

/-- The positions that arguments fill. -/
def positions (params : List Param) (args : List Given) : List Nat :=
  (placements params 0 args).map Prod.fst

/-- The parameters with what stands at their positions. -/
def assigned (params : List Param) (placed : List (Nat × Value)) : List (Param × Option Value) :=
  params.zipIdx.map fun (q, i) => (q, placed.lookup i)

/-- Each argument has a parameter for itself. -/
structure Fits (params : List Param) (args : List Given) : Prop where
  /-- What stands behind a named argument is named. -/
  ordered : args.Pairwise fun a b => a.name.isSome = true → b.name.isSome = true
  room : Given.positional args ≤ params.length
  known : ∀ g ∈ args, ∀ name, g.name = some name → ∃ q ∈ params, q.name = name
  once : (positions params args).Nodup

section

variable {params : List Param} {done args args' : List Given} {g : Given} {i : Nat} {v : Value}
  {placed : List (Nat × Value)}

/-! ## Placements -/

theorem placements_append (next : Nat) (xs ys : List Given) :
    placements params next (xs ++ ys) =
      placements params next xs ++ placements params (next + Given.positional xs) ys := by
  induction xs generalizing next with
  | nil => rfl
  | cons g rest ih =>
    simp only [List.cons_append, placements, Given.positional, List.countP_cons]
    by_cases hname : g.name.isNone = true
    · rw [if_pos hname, if_pos hname, ih, List.cons_append, if_pos hname, Given.positional]
      congr 3
      omega
    · rw [if_neg hname, if_neg hname, ih, List.append_assoc, if_neg hname, Given.positional,
        Nat.add_zero]

theorem positional_concat (done : List Given) (g : Given) :
    Given.positional (done ++ [g]) =
      if g.name.isNone then Given.positional done + 1 else Given.positional done := by
  unfold Given.positional
  rw [List.countP_append, List.countP_singleton]
  split <;> rfl

theorem placements_concat_of_none (params : List Param) (done : List Given)
    (hname : g.name = none) :
    placements params 0 (done ++ [g]) =
      placements params 0 done ++ [(Given.positional done, g.value)] := by
  simp [placements_append, placements, hname]

theorem placements_concat_of_some (done : List Given) {name : String}
    (hname : g.name = some name)
    (hi : (params.findIdx? fun q => q.name == name) = some i) :
    placements params 0 (done ++ [g]) = placements params 0 done ++ [(i, g.value)] := by
  simp [placements_append, placements, Given.aim, hname, hi]

/-- One more position is taken once if it has been free. -/
theorem nodup_positions_concat
    (hplaced : placements params 0 (done ++ [g]) = placements params 0 done ++ [(i, g.value)]) :
    (positions params (done ++ [g])).Nodup ↔
      i ∉ positions params done ∧ (positions params done).Nodup := by
  rw [positions, hplaced, List.map_append, ← List.nodup_concat, List.concat_eq_append]
  rfl

/-! ## One argument more -/

/-- Arguments fit only if those before the last do. -/
theorem Fits.init (h : Fits params (done ++ args)) : Fits params done where
  ordered := (List.pairwise_append.mp h.ordered).1
  room := by
    have hroom := h.room
    simp only [Given.positional, List.countP_append] at hroom ⊢
    omega
  known g hg := h.known g (List.mem_append_left _ hg)
  once := by
    have honce := h.once
    rw [positions, placements_append, List.map_append, List.nodup_append] at honce
    exact honce.1

/-- An argument without a name fits behind others if these have no names either and leave room,
and its parameter is free. -/
theorem fits_concat_of_none (params : List Param) (done : List Given) (hname : g.name = none) :
    Fits params (done ++ [g]) ↔ Fits params done ∧ (∀ a ∈ done, a.name = none) ∧
      Given.positional done < params.length ∧
      Given.positional done ∉ positions params done := by
  have honce := nodup_positions_concat (placements_concat_of_none params done hname)
  constructor
  · intro h
    have hroom := h.room
    rw [positional_concat, hname] at hroom
    refine ⟨h.init, fun a ha => ?_, hroom, (honce.mp h.once).1⟩
    have hordered := (List.pairwise_append.mp h.ordered).2.2 a ha g List.mem_cons_self
    rw [hname] at hordered
    simpa using hordered
  · rintro ⟨h, hnone, hroom, hfree⟩
    refine ⟨?ordered, ?room, ?known, honce.mpr ⟨hfree, h.once⟩⟩
    case ordered =>
      rw [List.pairwise_append]
      refine ⟨h.ordered, List.pairwise_singleton _ _, fun a ha b _ hnamed => ?_⟩
      rw [hnone a ha] at hnamed
      cases hnamed
    case room =>
      rw [positional_concat, hname]
      exact hroom
    case known =>
      intro a ha name ha'
      rcases List.mem_append.mp ha with ha | ha
      · exact h.known a ha name ha'
      · rw [List.mem_singleton.mp ha, hname] at ha'
        cases ha'

/-- A named argument fits behind others if there is a parameter of its name, and the first one is
free. -/
theorem fits_concat_of_some {name : String} (hname : g.name = some name) :
    Fits params (done ++ [g]) ↔ Fits params done ∧
      ∃ i, (params.findIdx? fun q => q.name == name) = some i ∧ i ∉ positions params done := by
  constructor
  · intro h
    obtain ⟨q, hq, hqname⟩ := h.known g (List.mem_append_right _ List.mem_cons_self) name hname
    obtain ⟨i, hi⟩ : ∃ i, (params.findIdx? fun q => q.name == name) = some i :=
      ⟨_, List.findIdx?_eq_some_of_exists ⟨q, hq, beq_iff_eq.mpr hqname⟩⟩
    have honce := nodup_positions_concat (placements_concat_of_some done hname hi)
    exact ⟨h.init, i, hi, (honce.mp h.once).1⟩
  · rintro ⟨h, i, hi, hfree⟩
    have honce := nodup_positions_concat (placements_concat_of_some done hname hi)
    refine ⟨?ordered, ?room, ?known, honce.mpr ⟨hfree, h.once⟩⟩
    case ordered =>
      rw [List.pairwise_append]
      refine ⟨h.ordered, List.pairwise_singleton _ _, fun a _ b hb _ => ?_⟩
      rw [List.mem_singleton.mp hb, hname]
      rfl
    case room =>
      rw [positional_concat, hname]
      exact h.room
    case known =>
      intro a ha other ha'
      rcases List.mem_append.mp ha with ha | ha
      · exact h.known a ha other ha'
      · rw [List.mem_singleton.mp ha, hname] at ha'
        obtain ⟨hlt, hfound, _⟩ := List.findIdx?_eq_some_iff_getElem.mp hi
        refine ⟨params[i], List.getElem_mem hlt, ?_⟩
        rw [← Option.some.inj ha']
        exact beq_iff_eq.mp hfound

/-! ## Slots -/

/-- A position is free exactly if no argument is for it. -/
theorem lookup_placements_eq_none_iff :
    (placements params 0 done).lookup i = none ↔ i ∉ positions params done := by
  rw [List.lookup_eq_none_iff, positions, List.mem_map]
  constructor
  · rintro h ⟨⟨j, w⟩, hmem, rfl⟩
    simpa using h _ hmem
  · rintro h ⟨j, w⟩ hmem
    rw [bne_iff_ne]
    rintro rfl
    exact h ⟨_, hmem, rfl⟩

theorem getElem?_assigned (params : List Param) (placed : List (Nat × Value)) (i : Nat) :
    (assigned params placed)[i]? = params[i]?.map fun q => (q, placed.lookup i) := by
  rw [assigned, List.getElem?_map, List.getElem?_zipIdx, Option.map_map, Nat.zero_add]
  rfl

@[simp] theorem length_assigned (params : List Param) (placed : List (Nat × Value)) :
    (assigned params placed).length = params.length := by
  rw [assigned, List.length_map, List.length_zipIdx]

/-- The parameters stay where they are. -/
theorem map_fst_assigned (params : List Param) (placed : List (Nat × Value)) :
    (assigned params placed).map Prod.fst = params := by
  apply List.ext_getElem?
  intro i
  rw [List.getElem?_map, getElem?_assigned, Option.map_map]
  exact congrFun Option.map_id _

theorem findIdx?_assigned (params : List Param) (placed : List (Nat × Value)) (name : String) :
    ((assigned params placed).findIdx? fun x => x.1.name == name) =
      params.findIdx? fun q => q.name == name := by
  conv_rhs => rw [← map_fst_assigned params placed, List.findIdx?_map]
  rfl

/-- A free slot takes a value. -/
theorem set_assigned {q : Param} (hq : params[i]? = some q) (hfree : placed.lookup i = none) :
    (assigned params placed).set i (q, some v) = assigned params (placed ++ [(i, v)]) := by
  apply List.ext_getElem?
  intro j
  rw [List.getElem?_set, length_assigned, getElem?_assigned, getElem?_assigned]
  simp only [List.lookup_append]
  by_cases hij : i = j
  · subst hij
    have hlt : i < params.length := (List.getElem?_eq_some_iff.mp hq).1
    rw [if_pos rfl, if_pos hlt, hq, Option.map_some, hfree, List.lookup_cons_self, Option.none_or]
  · have hother : [(i, v)].lookup j = none := by
      rw [List.lookup_cons, beq_eq_false_iff_ne.mpr (Ne.symm hij), List.lookup_nil]
    rw [if_neg hij]
    simp only [hother, Option.or_none]

namespace Slots

/-- How far filling has come behind arguments that fit. -/
def behind (params : List Param) (done : List Given) : Slots where
  filled := assigned params (placements params 0 done)
  next := Given.positional done
  named := done.any fun g => g.name.isSome

theorem behind_nil (params : List Param) : behind params [] = blank params := by
  have hfilled : assigned params [] = params.map fun q => (q, none) := by
    apply List.ext_getElem?
    intro i
    rw [getElem?_assigned, List.getElem?_map]
    rfl
  rw [behind, placements, hfilled]
  rfl

/-- A free slot takes a value, and one that is taken does not. -/
theorem put_behind (done : List Given) (hi : i < params.length) (v : Value) :
    (i ∉ positions params done →
      (behind params done).put i v =
        .ok (assigned params (placements params 0 done ++ [(i, v)]))) ∧
    (i ∈ positions params done →
      (behind params done).put i v = .error (.givenTwice params[i].name)) := by
  have hq : params[i]? = some params[i] := List.getElem?_eq_getElem hi
  have hslot : (behind params done).filled[i]? =
      some (params[i], (placements params 0 done).lookup i) := by
    rw [behind, getElem?_assigned, hq]
    rfl
  unfold put
  rw [hslot]
  constructor
  · intro hfree
    have hnone := lookup_placements_eq_none_iff.mpr hfree
    rw [hnone]
    exact congrArg _ (set_assigned hq hnone)
  · intro htaken
    cases hlookup : (placements params 0 done).lookup i with
    | none => exact absurd htaken (lookup_placements_eq_none_iff.mp hlookup)
    | some w => rfl

/-- Behind named arguments there is no position without a name, and neither is there one where no
room is left. -/
theorem position_behind_none (params : List Param) (done : List Given) (callee : String) :
    ((∀ a ∈ done, a.name = none) → Given.positional done < params.length →
      (behind params done).position callee none = .ok (Given.positional done)) ∧
    (¬ ((∀ a ∈ done, a.name = none) ∧ Given.positional done < params.length) →
      ∃ cause, (behind params done).position callee none = .error cause ∧
        cause.trouble = .arity) := by
  have hnamed : (behind params done).named = false ↔ ∀ a ∈ done, a.name = none := by
    simp [behind]
  have hlength : (behind params done).filled.length = params.length :=
    length_assigned params _
  unfold position
  simp only [hlength]
  constructor
  · intro hnone hroom
    rw [hnamed.mpr hnone, if_neg Bool.false_ne_true]
    exact if_neg (Nat.not_le.mpr hroom)
  · intro hnot
    by_cases hnone : (behind params done).named = true
    · rw [if_pos hnone]
      exact ⟨_, rfl, rfl⟩
    · have hall := hnamed.mp (Bool.eq_false_iff.mpr hnone)
      have hfull : params.length ≤ (behind params done).next :=
        Nat.not_lt.mp fun hroom => hnot ⟨hall, hroom⟩
      rw [if_neg hnone, if_pos hfull]
      exact ⟨_, rfl, rfl⟩

/-- The position of a named argument is that of the first parameter of its name. -/
theorem position_behind_some (params : List Param) (done : List Given) (callee name : String) :
    (behind params done).position callee (some name) =
      ((params.findIdx? fun q => q.name == name).elim (.error (.unknownParameter callee name))
        .ok) := by
  unfold position behind
  simp only [findIdx?_assigned]
  cases params.findIdx? fun q => q.name == name <;> rfl

/-- One argument more fills one slot more. -/
theorem behind_concat
    (hplaced : placements params 0 (done ++ [g]) = placements params 0 done ++ [(i, g.value)]) :
    behind params (done ++ [g]) =
      { filled := assigned params (placements params 0 done ++ [(i, g.value)])
        next := if g.name.isNone then Given.positional done + 1 else Given.positional done
        named := (done.any fun g => g.name.isSome) || g.name.isSome } := by
  rw [behind, hplaced, positional_concat, List.any_append, List.any_cons, List.any_nil,
    Bool.or_false]

theorem fill_of_position_error {slots : Slots} {callee : String} {cause : Cause}
    (hposition : slots.position callee g.name = .error cause) :
    slots.fill callee g.argument = .error cause := by
  unfold fill Given.argument
  simp only [hposition]
  rfl

/-- Once the position of an argument is known, all depends on whether it is free. -/
theorem fill_of_position {callee : String} (hi : i < params.length)
    (hposition : (behind params done).position callee g.name = .ok i)
    (hplaced : placements params 0 (done ++ [g]) = placements params 0 done ++ [(i, g.value)])
    (hfits : Fits params (done ++ [g]) ↔ i ∉ positions params done) :
    (Fits params (done ++ [g]) →
      (behind params done).fill callee g.argument = .ok (behind params (done ++ [g]))) ∧
    (¬ Fits params (done ++ [g]) →
      ∃ cause, (behind params done).fill callee g.argument = .error cause ∧
        cause.trouble = .arity) := by
  obtain ⟨hfree, htaken⟩ := put_behind done hi g.value
  unfold fill Given.argument
  simp only [hposition, bind, Except.bind]
  constructor
  · intro h
    rw [hfree (hfits.mp h), behind_concat hplaced]
    rfl
  · intro h
    rw [htaken (Decidable.not_not.mp fun hi => h (hfits.mpr hi))]
    exact ⟨_, rfl, rfl⟩

/-- **One step.** Behind arguments that fit, an argument that fits as well is put into its slot,
and any other is refused. -/
theorem fill_behind (callee : String) (hdone : Fits params done) :
    (Fits params (done ++ [g]) →
      (behind params done).fill callee g.argument = .ok (behind params (done ++ [g]))) ∧
    (¬ Fits params (done ++ [g]) →
      ∃ cause, (behind params done).fill callee g.argument = .error cause ∧
        cause.trouble = .arity) := by
  cases hname : g.name with
  | none =>
    have hfits := fits_concat_of_none params done hname
    obtain ⟨hok, herror⟩ := position_behind_none params done callee
    by_cases hplace : (∀ a ∈ done, a.name = none) ∧ Given.positional done < params.length
    · refine fill_of_position hplace.2 ?_ (placements_concat_of_none params done hname) ?_
      · rw [hname]
        exact hok hplace.1 hplace.2
      · rw [hfits]
        exact ⟨fun h => h.2.2.2, fun h => ⟨hdone, hplace.1, hplace.2, h⟩⟩
    · obtain ⟨cause, hcause, harity⟩ := herror hplace
      rw [← hname] at hcause
      refine ⟨fun h => ?_, fun _ => ⟨cause, fill_of_position_error hcause, harity⟩⟩
      obtain ⟨_, hnone, hroom, _⟩ := hfits.mp h
      exact absurd ⟨hnone, hroom⟩ hplace
  | some name =>
    have hposition := position_behind_some params done callee name
    rw [← hname] at hposition
    cases hfound : params.findIdx? fun q => q.name == name with
    | none =>
      rw [hfound] at hposition
      refine ⟨fun h => ?_, fun _ => ⟨_, fill_of_position_error hposition, rfl⟩⟩
      obtain ⟨_, i, hi, _⟩ := (fits_concat_of_some hname).mp h
      rw [hfound] at hi
      cases hi
    | some i =>
      rw [hfound] at hposition
      obtain ⟨hlt, _⟩ := List.findIdx?_eq_some_iff_getElem.mp hfound
      refine fill_of_position hlt hposition (placements_concat_of_some done hname hfound) ?_
      rw [fits_concat_of_some hname]
      constructor
      · rintro ⟨_, j, hj, hfree⟩
        rw [hfound] at hj
        cases hj
        exact hfree
      · exact fun hfree => ⟨hdone, i, hfound, hfree⟩

theorem fits_nil (params : List Param) : Fits params [] where
  ordered := .nil
  room := Nat.zero_le _
  known g hg := by cases hg
  once := .nil

/-- **All steps.** Behind arguments that fit, others are filled in if all of them fit, and else one
of them is refused. -/
theorem fillAll_behind (callee : String) (rest : List Given) (hdone : Fits params done) :
    (Fits params (done ++ rest) →
      (behind params done).fillAll callee (rest.map Given.argument) =
        .ok (behind params (done ++ rest))) ∧
    (¬ Fits params (done ++ rest) →
      ∃ loc cause, (behind params done).fillAll callee (rest.map Given.argument) =
        .error (loc, cause) ∧ cause.trouble = .arity) := by
  induction rest generalizing done with
  | nil =>
    rw [List.append_nil]
    exact ⟨fun _ => rfl, fun h => absurd hdone h⟩
  | cons g rest ih =>
    rw [List.append_cons, List.map_cons, fillAll]
    obtain ⟨hok, herror⟩ := fill_behind callee hdone
    by_cases hg : Fits params (done ++ [g])
    · rw [hok hg]
      exact ih hg
    · obtain ⟨cause, hcause, harity⟩ := herror hg
      rw [hcause]
      exact ⟨fun h => absurd h.init hg, fun _ => ⟨_, cause, rfl, harity⟩⟩

/-- **Filling.** Arguments that fit go to the parameters that they are for, and if one does not fit,
the numbers of arguments and parameters do not agree. -/
theorem fillAll_blank (params : List Param) (callee : String) (args : List Given) :
    (Fits params args →
      (blank params).fillAll callee (args.map Given.argument) = .ok (behind params args)) ∧
    (¬ Fits params args →
      ∃ loc cause, (blank params).fillAll callee (args.map Given.argument) = .error (loc, cause) ∧
        cause.trouble = .arity) := by
  rw [← behind_nil]
  exact fillAll_behind callee args (fits_nil params)

end Slots

/-! ## Named arguments in another order -/

/-- The same arguments, with the named ones in any order at the places of named ones. -/
structure Reorders (args args' : List Given) : Prop where
  places : (args'.map fun g => g.name.isNone) = args.map fun g => g.name.isNone
  positional : (args'.filter fun g => g.name.isNone) = args.filter fun g => g.name.isNone
  named : (args'.filter fun g => g.name.isSome).Perm (args.filter fun g => g.name.isSome)

/-- Named arguments are for the same parameters wherever they stand. -/
theorem placements_perm (params : List Param) (next : Nat) (args : List Given) :
    (placements params next args).Perm
      (placements params next (args.filter fun g => g.name.isNone) ++
        (args.filter fun g => g.name.isSome).filterMap (Given.aim params)) := by
  induction args generalizing next with
  | nil => exact .refl _
  | cons g rest ih =>
    cases hname : g.name with
    | none =>
      simp only [List.filter_cons, placements, hname, Option.isNone_none, Option.isSome_none,
        if_true, Bool.false_eq_true, if_false]
      exact (ih (next + 1)).cons _
    | some name =>
      have haim : ∀ l : List Given, (g :: l).filterMap (Given.aim params) =
          (g.aim params).toList ++ l.filterMap (Given.aim params) := by
        intro l
        rw [List.filterMap_cons]
        cases g.aim params <;> rfl
      simp only [List.filter_cons, placements, hname, Option.isNone_some, Option.isSome_some,
        if_true, Bool.false_eq_true, if_false, haim]
      exact ((ih next).append_left _).trans (List.perm_append_comm_assoc _ _ _)

/-- Entries whose keys differ can be looked up in any order. -/
theorem lookup_eq_of_perm {l l' : List (Nat × Value)} (hp : l.Perm l')
    (hnodup : (l.map Prod.fst).Nodup) (i : Nat) : l.lookup i = l'.lookup i := by
  induction hp with
  | nil => rfl
  | cons x _ ih =>
    obtain ⟨j, v⟩ := x
    rw [List.map_cons, List.nodup_cons] at hnodup
    rw [List.lookup_cons, List.lookup_cons, ih hnodup.2]
  | swap x y l =>
    obtain ⟨j, v⟩ := x
    obtain ⟨k, w⟩ := y
    rw [List.map_cons, List.map_cons, List.nodup_cons, List.mem_cons, not_or] at hnodup
    obtain ⟨⟨hne, _⟩, _⟩ := hnodup
    simp only [List.lookup_cons]
    by_cases hj : i = j
    · have hk : (i == k) = false := beq_eq_false_iff_ne.mpr (hj ▸ Ne.symm hne)
      rw [hk]
    · have hj : (i == j) = false := beq_eq_false_iff_ne.mpr hj
      rw [hj]
  | trans h₁ _ ih₁ ih₂ => exact (ih₁ hnodup).trans (ih₂ ((h₁.map _).nodup_iff.mp hnodup))

namespace Reorders

theorem symm (h : Reorders args args') : Reorders args' args :=
  ⟨h.places.symm, h.positional.symm, h.named.symm⟩

theorem perm_placements (params : List Param) (h : Reorders args args') :
    (placements params 0 args').Perm (placements params 0 args) := by
  refine (placements_perm params 0 args').trans (.trans ?_ (placements_perm params 0 args).symm)
  rw [h.positional]
  exact (h.named.filterMap _).append_left _

theorem fits_of_fits (h : Reorders args args') (hfits : Fits params args) : Fits params args' where
  ordered := by
    -- What stands behind what can be told from the places alone.
    have hplaces : ∀ {l : List Given}, (l.Pairwise fun a b =>
        a.name.isSome = true → b.name.isSome = true) ↔
          (l.map fun g => g.name.isNone).Pairwise fun a b => a = false → b = false := by
      intro l
      rw [List.pairwise_map]
      simp only [Option.isNone_eq_false_iff]
    rw [hplaces, h.places, ← hplaces]
    exact hfits.ordered
  room := by
    have hroom := hfits.room
    rw [Given.positional, List.countP_eq_length_filter] at hroom ⊢
    rw [h.positional]
    exact hroom
  known g hg name hname := by
    have hsome : g.name.isSome = true := by rw [hname]; rfl
    have hmem := h.named.subset (List.mem_filter.mpr ⟨hg, hsome⟩)
    exact hfits.known g (List.mem_filter.mp hmem).1 name hname
  once := ((h.perm_placements params).map _).nodup_iff.mpr hfits.once

/-- **The order of named arguments does not matter** to what stands at which position. -/
theorem assigned_eq (h : Reorders args args') (hfits : Fits params args) :
    assigned params (placements params 0 args') =
      assigned params (placements params 0 args) := by
  unfold assigned
  have hlookup := lookup_eq_of_perm (h.perm_placements params).symm hfits.once
  simp only [hlookup]

end Reorders

end

end Graft
