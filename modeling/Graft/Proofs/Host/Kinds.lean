import Graft.Job
import Graft.Proofs.Host.Ancestry
import Graft.Proofs.Host.Loaded
import Graft.Proofs.Selector.Addition
import Graft.Proofs.Table.Order

/-!
The kinds of a described tree.

The types of a tree are collected on a walk that comes to parents before what is below them, and a
type is noted where it is met for the first time. So each is noted once, and none is registered
twice: registration fails for a blank type only. No operation changes the kinds. So an
addition to an element that may be edited is refused, at any time, exactly if its type did not
occur in the tree that the host was made from.
-/

set_option autoImplicit false

namespace Graft

/-! ## Types -/

namespace Description

mutual

/-- The types of the elements of a tree, parents before what is below them. -/
def occurring : Description → List String
  | .mk type _ _ _ children _ => type :: occurringIn children

/-- The same of several trees. -/
def occurringIn : List Description → List String
  | [] => []
  | d :: rest => d.occurring ++ occurringIn rest

end

/-- Notes a type unless it has been noted. -/
def noteType (seen : List String) (type : String) : List String :=
  if seen.contains type then seen else seen ++ [type]

mutual

/-- The types of a tree are noted one after the other. -/
theorem collectTypes_eq (seen : List String) :
    ∀ d : Description, d.collectTypes seen = d.occurring.foldl noteType seen
  | .mk _ _ _ _ children _ => collectTypesOf_eq _ children

theorem collectTypesOf_eq (seen : List String) :
    ∀ ds : List Description, collectTypesOf seen ds = (occurringIn ds).foldl noteType seen
  | [] => rfl
  | d :: rest => by
    rw [collectTypesOf, occurringIn, List.foldl_append, ← collectTypes_eq seen d]
    exact collectTypesOf_eq _ rest

end

/-- What has been noted of some types: each of them once, in the order in which they are met for
the first time. -/
structure Firsts (types noted : List String) : Prop where
  nodup : noted.Nodup
  mem_iff : ∀ type, type ∈ noted ↔ type ∈ types
  order : noted.Pairwise fun s t => types.idxOf s < types.idxOf t

namespace Firsts

variable {types noted : List String}

theorem nil : Firsts [] [] :=
  ⟨.nil, fun _ => Iff.rfl, .nil⟩

/-- One more type. -/
theorem note (h : Firsts types noted) (type : String) :
    Firsts (types ++ [type]) (noteType noted type) := by
  -- What was met before keeps its place.
  have hplace : ∀ {t}, t ∈ noted → (types ++ [type]).idxOf t = types.idxOf t :=
    fun ht => List.idxOf_append_of_mem ((h.mem_iff _).mp ht)
  have horder : noted.Pairwise fun s t =>
      (types ++ [type]).idxOf s < (types ++ [type]).idxOf t := by
    refine h.order.imp_of_mem fun {s t} hs ht hlt => ?_
    rwa [hplace hs, hplace ht]
  unfold noteType
  by_cases hseen : type ∈ noted
  · rw [if_pos (List.contains_iff_mem.mpr hseen)]
    refine ⟨h.nodup, fun t => ?_, horder⟩
    rw [h.mem_iff, List.mem_append, List.mem_singleton]
    refine ⟨.inl, fun ht => ht.elim id fun heq => ?_⟩
    exact heq ▸ (h.mem_iff type).mp hseen
  · have hnew : type ∉ types := fun ht => hseen ((h.mem_iff type).mpr ht)
    rw [if_neg (fun hc => hseen (List.contains_iff_mem.mp hc))]
    refine ⟨?_, fun t => ?_, ?_⟩
    · exact List.concat_eq_append ▸ h.nodup.concat hseen
    · rw [List.mem_append, List.mem_append, h.mem_iff]
    · refine List.pairwise_append.mpr ⟨horder, List.pairwise_singleton _ _, fun s hs t ht => ?_⟩
      obtain rfl := List.mem_singleton.mp ht
      rw [hplace hs, List.idxOf_append_of_notMem hnew]
      have hlt : types.idxOf s < types.length := List.idxOf_lt_length_of_mem ((h.mem_iff s).mp hs)
      omega

/-- **Run.** Some more types. -/
theorem foldl (h : Firsts types noted) (more : List String) :
    Firsts (types ++ more) (more.foldl noteType noted) := by
  induction more generalizing types noted with
  | nil => rwa [List.append_nil]
  | cons type more ih =>
    rw [List.append_cons]
    exact ih (h.note type)

end Firsts

/-- The types of a tree are listed once, in the order of their first occurrence. -/
theorem firsts_types (d : Description) : Firsts d.occurring d.types := by
  rw [types, collectTypes_eq]
  exact Firsts.nil.foldl d.occurring

end Description

/-! ## Registration -/

namespace Kinds

/-- Some new types, each with an empty object. -/
def ofNames (types : List String) : Kinds :=
  types.map fun type => (type, .object [])

theorem get?_ofNames (types : List String) (type : String) :
    Table.get? (ofNames types) type = if type ∈ types then some (.object []) else none := by
  induction types with
  | nil => rfl
  | cons t rest ih =>
    show Table.get? ((t, .object []) :: ofNames rest) type = _
    rw [Table.get?_cons, ih]
    by_cases ht : t = type
    · rw [if_pos ht, if_pos (ht ▸ List.mem_cons_self)]
    · simp only [if_neg ht, List.mem_cons, Ne.symm ht, false_or]

/-- Types that are all new and different are registered in turn, up to one that is blank. -/
theorem foldlM_register {kinds : Kinds} {types : List String}
    (h : (Table.names kinds ++ types).Nodup) :
    types.foldlM (fun kinds type => kinds.register type (.object [])) kinds =
      if types.any Text.isBlankText then .error .emptyKind else .ok (kinds ++ ofNames types) := by
  induction types generalizing kinds with
  | nil => exact congrArg Except.ok (List.append_nil kinds).symm
  | cons type rest ih =>
    rw [List.foldlM_cons, register, List.any_cons]
    by_cases hblank : Text.isBlankText type = true
    · rw [if_pos hblank, hblank]
      rfl
    · have hnew : type ∉ Table.names kinds := by
        intro hmem
        exact (List.nodup_append.mp h).2.2 type hmem type List.mem_cons_self rfl
      have hhas : ¬ Table.has kinds type = true := fun hc => hnew ((Table.mem_names_iff _ _).mpr hc)
      have hnames :
          Table.names (kinds ++ [(type, Value.object [])]) = Table.names kinds ++ [type] :=
        List.map_append
      rw [List.append_cons, ← hnames] at h
      rw [if_neg hblank, if_neg hhas, Table.insert_of_not_mem hnew]
      have hall : kinds ++ ofNames (type :: rest) = kinds ++ [(type, .object [])] ++ ofNames rest :=
        List.append_cons kinds _ _
      rw [Bool.not_eq_true] at hblank
      rw [hblank, Bool.false_or, hall]
      exact ih h

/-- **Registration.** The types of a tree are no kinds exactly if one of them is blank.
Otherwise they are the kinds, and what is added starts as an empty object. -/
theorem ofTypes_types (d : Description) :
    ofTypes d.types =
      if d.types.any Text.isBlankText then .error .emptyKind else .ok (ofNames d.types) :=
  foldlM_register d.firsts_types.nodup

end Kinds

/-! ## Additions -/

namespace Host

/-- Loading leaves the kinds as they are. -/
theorem kinds_keptByLoading (kinds : Kinds) :
    KeptByLoading (fun _ => True) fun h => h.kinds = kinds where
  below _ _ _ := trivial
  push _ _ hh := hh
  update _ _ hh := hh

theorem kinds_ofDescription (kinds : Kinds) (d : Description) :
    (ofDescription kinds d).kinds = kinds :=
  (kinds_keptByLoading kinds).ofDescription rfl (d := d) trivial

/-- The types of all elements, in the order of their numbers. -/
def elementTypes (h : Host) : List String :=
  h.elements.toList.map Element.type

theorem elementTypes_update (h : Host) (id : ElementId) (children : List ElementId) :
    (h.update id fun e => { e with children }).elementTypes = h.elementTypes := by
  simp only [elementTypes, update, Array.toList_modify]
  refine List.ext_getElem (by simp) fun i _ _ => ?_
  simp only [List.getElem_map, List.getElem_modify]
  split <;> rfl

mutual

/-- A tree is loaded parents first. -/
theorem elementTypes_load (h : Host) (parent : Option ElementId) :
    ∀ d : Description, (h.load parent d).2.elementTypes = h.elementTypes ++ d.occurring
  | .mk type name classes value children readOnly => by
    let top := sprout parent type name classes value readOnly
    have hpush : (h.push top).2.elementTypes = h.elementTypes ++ [type] := by
      simp [elementTypes, push, top, sprout]
    refine (elementTypes_update _ _ _).trans ?_
    refine (elementTypes_loadAll (h.push top).2 _ children).trans ?_
    rw [hpush, Description.occurring, List.append_assoc, List.singleton_append]

theorem elementTypes_loadAll (h : Host) (parent : ElementId) :
    ∀ ds : List Description,
      (h.loadAll parent ds).2.elementTypes = h.elementTypes ++ Description.occurringIn ds
  | [] => (List.append_nil _).symm
  | d :: rest => by
    refine (elementTypes_loadAll _ parent rest).trans ?_
    rw [elementTypes_load h (some parent) d, Description.occurringIn, List.append_assoc]

end

theorem elementTypes_ofDescription (kinds : Kinds) (d : Description) :
    (ofDescription kinds d).elementTypes = d.occurring :=
  elementTypes_load (empty kinds) none d

/-- **No operation changes the kinds.** -/
theorem Reached.kinds_eq {start h : Host} (hr : Reached start h) : h.kinds = start.kinds := by
  induction hr with
  | start => rfl
  | set _ hset ih =>
    obtain ⟨-, rfl⟩ := set_eq_ok_iff.mp hset
    exact ih
  | merge _ hmerge ih =>
    obtain ⟨-, rfl⟩ := merge_eq_ok_iff.mp hmerge
    exact ih
  | delete _ hdelete ih =>
    obtain ⟨-, parent, -, rfl⟩ := delete_eq_ok_iff.mp hdelete
    exact ih
  | add _ _ hadd ih =>
    obtain ⟨-, -, v, -, rfl⟩ := add_eq_ok_iff.mp hadd
    exact ih
  | setReadOnly _ _ _ ih => exact ih

theorem checkEditable_ne_unknownKind {h : Host} {id : ElementId} {tag : String} :
    h.checkEditable id ≠ .error (.unknownKind tag) := by
  intro he
  simp only [checkEditable] at he
  split at he
  · cases he
  · split at he
    · cases he
    · cases he

/-- An addition is refused for a kind exactly if its type is none and the element may be edited. -/
theorem add_eq_unknownKind_iff {h : Host} {id : ElementId} {type tag : String} :
    h.add id type = .error (.unknownKind tag) ↔
      h.checkEditable id = .ok () ∧ tag = type ∧ Table.get? h.kinds type = none := by
  unfold add Kinds.initial
  cases hcheck : h.checkEditable id with
  | error e =>
    refine iff_of_false (fun he => ?_) nofun
    cases he
    exact checkEditable_ne_unknownKind hcheck
  | ok _ =>
    cases Table.get? h.kinds type with
    | some v => exact iff_of_false nofun nofun
    | none =>
      simp only [bind, Except.bind, Except.error.injEq, HostError.unknownKind.injEq]
      exact ⟨fun he => ⟨trivial, he.symm, trivial⟩, fun he => he.2.1.symm⟩

end Host

end Graft
