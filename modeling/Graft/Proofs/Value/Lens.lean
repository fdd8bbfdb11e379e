import Graft.Proofs.Value.Alike
import Graft.Proofs.Value.Slot

/-!
Writing at a path and reading at paths.

A path is read segment by segment, and what is written behind its front part is written into the
value that the front part leads to. So a place holds what has been written there, and paths that
part ways from it read what they read before. Types and classes only look for an item: a path
with them does what the path with the indexes of these items does.
-/

set_option autoImplicit false

namespace Graft

/-! ## Paths -/

/-- Two paths part ways: they differ at a position that both of them have. -/
def Diverge : List Segment → List Segment → Prop
  | s :: path, t :: other => s ≠ t ∨ Diverge path other
  | _, _ => False

/-- A path that parts ways from a longer one does so from its front part, or runs through it. -/
theorem diverge_append {front tail other : List Segment} (h : Diverge (front ++ tail) other) :
    Diverge front other ∨ ∃ rest, other = front ++ rest ∧ Diverge tail rest := by
  induction front generalizing other with
  | nil => exact .inr ⟨other, rfl, h⟩
  | cons s front ih =>
    match other, h with
    | t :: other, h =>
      rcases h with hne | h
      · exact .inl (.inl hne)
      · rcases ih h with hfront | ⟨rest, rfl, hrest⟩
        · exact .inl (.inr hfront)
        · by_cases hst : s = t
          · subst hst
            exact .inr ⟨rest, rfl, hrest⟩
          · exact .inl (.inl hst)

/-- What parts ways from a single segment starts with another one. -/
theorem diverge_singleton {segment : Segment} {other : List Segment}
    (h : Diverge [segment] other) : ∃ next rest, other = next :: rest ∧ segment ≠ next := by
  match other, h with
  | next :: rest, .inl hne => exact ⟨next, rest, rfl, hne⟩

/-- Whether an item is what a type or a class looks for. -/
def Segment.fits (conventions : FieldConventions) : Segment → Value → Bool
  | ofType tag => Value.hasType conventions tag
  | ofClass tag => Value.hasClass conventions tag
  | _ => fun _ => false

namespace Value

variable {conventions : FieldConventions}

/-! ## Reading along a path -/

theorem readAt?_cons (v : Value) (segment : Segment) (rest : List Segment) :
    readAt? conventions v (segment :: rest) =
      (step? conventions v segment).bind (readAt? conventions · rest) := by
  rw [readAt?]
  cases step? conventions v segment <;> rfl

theorem readAt?_append (v : Value) (front rest : List Segment) :
    readAt? conventions v (front ++ rest) =
      (readAt? conventions v front).bind (readAt? conventions · rest) := by
  induction front generalizing v with
  | nil => rfl
  | cons segment front ih =>
    rw [List.cons_append, readAt?_cons, readAt?_cons]
    cases step? conventions v segment with
    | none => rfl
    | some child => exact ih child

/-- What is behind a front part is read from what that part leads to. -/
theorem readAt?_behind {v holder : Value} {front : List Segment}
    (h : readAt? conventions v front = some holder) (rest : List Segment) :
    readAt? conventions v (front ++ rest) = readAt? conventions holder rest := by
  rw [readAt?_append, h, Option.bind_some]

theorem readAt?_singleton (v : Value) (segment : Segment) :
    readAt? conventions v [segment] = step? conventions v segment := by
  rw [readAt?_cons]
  cases step? conventions v segment <;> rfl

/-- The value of an item repeats no key if the list does not. -/
theorem DistinctItems.getElem? {items : List Value} (h : DistinctItems items) {i : Nat} {v : Value}
    (hv : items[i]? = some v) : v.Distinct := by
  induction items generalizing i with
  | nil => cases hv
  | cons w rest ih =>
    cases i with
    | zero =>
      obtain rfl : w = v := Option.some.inj hv
      exact h.1
    | succ i => exact ih h.2 hv

/-- What is read from a value without repeated keys repeats none. -/
theorem Distinct.readAt? {v w : Value} (hv : v.Distinct) {path : List Segment}
    (h : Value.readAt? conventions v path = some w) : w.Distinct := by
  induction path generalizing v with
  | nil =>
    obtain rfl : v = w := Option.some.inj h
    exact hv
  | cons segment rest ih =>
    rw [readAt?_cons, Option.bind_eq_some_iff] at h
    obtain ⟨child, hchild, hrest⟩ := h
    obtain ⟨s, hs, hcontent⟩ := step?_eq_some_iff.mp hchild
    apply ih _ hrest
    rcases slot_eq_ok hs with ⟨entries, name, rfl, _, rfl⟩ | ⟨items, i, rfl, _, _, rfl⟩
    · exact hv.2.get? hcontent
    · exact DistinctItems.getElem? hv hcontent

/-! ## Writing behind a front part -/

/-- Whatever parts ways from the path reads the same in both values. -/
def AgreeOff (conventions : FieldConventions) (path : List Segment) (v w : Value) : Prop :=
  ∀ other : List Segment, other.all Segment.isPlace = true → Diverge path other →
    readAt? conventions w other = readAt? conventions v other

/-- **What is written behind a front part is written into what that part leads to.** The result is
put back there; if the front part consists of places, it is read there, and what parts ways from
the front part is as it was. -/
theorem writeAt_append {v holder : Value} {front tail : List Segment} (htail : tail ≠ [])
    (h : readAt? conventions v front = some holder) :
    ∃ put : Value → Value,
      (∀ new, writeAt conventions new v (front ++ tail) =
        (writeAt conventions new holder tail).map put) ∧
      (front.all Segment.isPlace = true → ∀ x,
        readAt? conventions (put x) front = some x ∧ AgreeOff conventions front v (put x)) := by
  induction front generalizing v with
  | nil =>
    obtain rfl : v = holder := Option.some.inj h
    refine ⟨id, fun new => ?_, fun _ x => ⟨rfl, fun _ _ hd => hd.elim⟩⟩
    rw [List.nil_append]
    cases writeAt conventions new v tail <;> rfl
  | cons segment front ih =>
    rw [readAt?_cons, Option.bind_eq_some_iff] at h
    obtain ⟨child, hchild, hfront⟩ := h
    obtain ⟨put, hput, hback⟩ := ih hfront
    obtain ⟨s, hs, hcontent⟩ := step?_eq_some_iff.mp hchild
    refine ⟨fun x => s.fill (put x), fun new => ?_, fun hplaces x => ?_⟩
    · have hbehind : front ++ tail ≠ [] := List.append_ne_nil_of_right_ne_nil front htail
      rw [List.cons_append, writeAt_of_content hs hcontent new hbehind, hput new]
      cases writeAt conventions new holder tail <;> rfl
    · rw [List.all_cons, Bool.and_eq_true] at hplaces
      obtain ⟨hsegment, hplaces⟩ := hplaces
      obtain ⟨hread, hagree⟩ := hback hplaces x
      constructor
      · rw [readAt?_cons, step?_fill hs hsegment]
        exact hread
      · intro other hother hd
        match other, hd with
        | next :: rest, hd =>
          rw [List.all_cons, Bool.and_eq_true] at hother
          rw [readAt?_cons, readAt?_cons]
          by_cases hsame : segment = next
          · -- Both go the same way for one segment more.
            subst hsame
            have hd : Diverge front rest := hd.resolve_left fun hne => hne rfl
            rw [step?_fill hs hsegment, hchild]
            exact hagree rest hother.2 hd
          · rw [step?_fill_of_ne hs hsegment hother.1 hsame]

/-- What is written behind a front part that leads nowhere is not written. -/
theorem writeAt_append_of_none {v : Value} {front tail : List Segment} (htail : tail ≠ [])
    (h : readAt? conventions v front = none) (new : Value) :
    ∃ e, writeAt conventions new v (front ++ tail) = .error e := by
  induction front generalizing v with
  | nil => cases h
  | cons segment front ih =>
    have hbehind : front ++ tail ≠ [] := List.append_ne_nil_of_right_ne_nil front htail
    rw [List.cons_append]
    cases hs : slot conventions v segment with
    | error e => exact ⟨e, writeAt_of_no_slot hs new _⟩
    | ok s =>
      rw [readAt?_cons, step?_of_slot hs] at h
      cases hcontent : s.content with
      | none => exact ⟨_, writeAt_of_no_content hs hcontent new hbehind⟩
      | some child =>
        rw [hcontent] at h
        obtain ⟨e, he⟩ := ih h
        refine ⟨e, ?_⟩
        rw [writeAt_of_content hs hcontent new hbehind, he]
        rfl

/-- **A write goes into the slot of the last segment**, in the holder that the path without it
leads to. -/
theorem writeAt_eq_ok {new v w : Value} {front : List Segment} {last : Segment}
    (h : writeAt conventions new v (front ++ [last]) = .ok w) :
    ∃ holder s, readAt? conventions v front = some holder ∧ slot conventions holder last = .ok s ∧
      (front.all Segment.isPlace = true →
        readAt? conventions w front =
          some (if new.isDeletion then s.clear else s.fill new.withoutDeletions) ∧
        AgreeOff conventions front v w) := by
  have hlast : [last] ≠ [] := List.cons_ne_nil last []
  cases hread : readAt? conventions v front with
  | none =>
    obtain ⟨e, he⟩ := writeAt_append_of_none hlast hread new
    rw [he] at h
    cases h
  | some holder =>
    obtain ⟨put, hput, hback⟩ := writeAt_append hlast hread
    rw [hput new, writeAt_single] at h
    cases hs : slot conventions holder last with
    | error e =>
      rw [hs] at h
      cases h
    | ok s =>
      rw [hs] at h
      obtain rfl := Except.ok.inj h
      exact ⟨holder, s, rfl, hs, fun hplaces => hback hplaces _⟩

/-- What parts ways behind the front part is as it was if the holder shows nothing else. -/
theorem AgreeOff.behind {v w holder holder' : Value} {front : List Segment} {last : Segment}
    (h : AgreeOff conventions front v w) (hv : readAt? conventions v front = some holder)
    (hw : readAt? conventions w front = some holder')
    (hstep : ∀ next : Segment, next.isPlace = true → last ≠ next →
      step? conventions holder' next = step? conventions holder next) :
    AgreeOff conventions (front ++ [last]) v w := by
  intro other hother hd
  rcases diverge_append hd with hfront | ⟨_, rfl, hbehind⟩
  · exact h other hother hfront
  · obtain ⟨next, rest, rfl, hne⟩ := diverge_singleton hbehind
    rw [List.all_append, List.all_cons, Bool.and_eq_true, Bool.and_eq_true] at hother
    rw [readAt?_behind hw, readAt?_behind hv, readAt?_cons, readAt?_cons,
      hstep next hother.2.1 hne]

/-! ## Writing at a place -/

/-- **Read back, and frame.** Where a value that is no marker has been written, it is read without
the markers inside it; everything off the path is as it was. -/
theorem readAt?_writeAt {new v w : Value} {path : List Segment}
    (hplaces : path.all Segment.isPlace = true) (hnew : new.isDeletion = false)
    (h : writeAt conventions new v path = .ok w) :
    readAt? conventions w path = some new.withoutDeletions ∧ AgreeOff conventions path v w := by
  rcases List.eq_nil_or_concat' path with rfl | ⟨front, last, rfl⟩
  · obtain rfl := Except.ok.inj h
    exact ⟨rfl, fun _ _ hd => hd.elim⟩
  · rw [List.all_append, List.all_cons, Bool.and_eq_true, Bool.and_eq_true] at hplaces
    obtain ⟨holder, s, hread, hs, hback⟩ := writeAt_eq_ok h
    obtain ⟨hholder, hagree⟩ := hback hplaces.1
    rw [hnew, if_neg Bool.false_ne_true] at hholder
    constructor
    · rw [readAt?_behind hholder, readAt?_singleton, step?_fill hs hplaces.2.1]
    · exact hagree.behind hread hholder fun next hnext hne =>
        step?_fill_of_ne hs hplaces.2.1 hnext hne _

/-- **A key is removed.** The entry is gone; the other entries of the object stand as they stood,
and everything off the path is as it was. -/
theorem readAt?_writeAt_deletion_key {v w : Value} (hv : v.Distinct) {front : List Segment}
    {name : String} (hplaces : front.all Segment.isPlace = true)
    (h : writeAt conventions deletion v (front ++ [.key name]) = .ok w) :
    readAt? conventions w (front ++ [.key name]) = none ∧
      (∃ entries : Table Value, readAt? conventions v front = some (object entries) ∧
        readAt? conventions w front = some (object (entries.filter fun e => e.1 ≠ name))) ∧
      AgreeOff conventions (front ++ [.key name]) v w := by
  obtain ⟨holder, s, hread, hs, hback⟩ := writeAt_eq_ok h
  obtain ⟨hholder, hagree⟩ := hback hplaces
  rcases slot_eq_ok hs with ⟨entries, _, rfl, hname, rfl⟩ | ⟨items, i, _, hindex, _, _⟩
  · obtain rfl := Segment.key.inj hname
    have hdistinct : Table.Distinct entries := (hv.readAt? hread).1
    have hcleared : readAt? conventions w front = some (object (Table.erase entries name)) :=
      hholder
    refine ⟨?_, ⟨entries, hread, ?_⟩, hagree.behind hread hcleared fun next hnext hne => ?_⟩
    · rw [readAt?_behind hcleared, readAt?_singleton, step?_object_key, hdistinct.get?_erase,
        if_pos rfl]
    · rw [hcleared, hdistinct.erase_eq_filter]
    · cases next with
      | key other =>
        rw [step?_object_key, step?_object_key, hdistinct.get?_erase,
          if_neg fun he => hne (congrArg _ he)]
      | index _ => rfl
      | _ => cases hnext
  · cases hindex

/-- **An item is removed.** The list is left without that one item, so what was read behind it is
read one position earlier; everything off the path to the list is as it was. -/
theorem readAt?_writeAt_deletion_index {v w : Value} {front : List Segment} {i : Nat}
    (hplaces : front.all Segment.isPlace = true)
    (h : writeAt conventions deletion v (front ++ [.index i]) = .ok w) :
    (∃ items : List Value, readAt? conventions v front = some (list items) ∧ i < items.length ∧
        readAt? conventions w front = some (list (items.eraseIdx i))) ∧
      (∀ (j : Nat) (rest : List Segment), readAt? conventions w (front ++ .index j :: rest) =
        readAt? conventions v (front ++ .index (if j < i then j else j + 1) :: rest)) ∧
      AgreeOff conventions front v w := by
  obtain ⟨holder, s, hread, hs, hback⟩ := writeAt_eq_ok h
  obtain ⟨hholder, hagree⟩ := hback hplaces
  rcases slot_eq_ok hs with ⟨_, _, _, hname, _⟩ | ⟨items, position, rfl, hindex, hlt, rfl⟩
  · cases hname
  · obtain rfl := itemIndex?_index hindex
    have hcleared : readAt? conventions w front = some (list (items.eraseIdx position)) := hholder
    refine ⟨⟨items, hread, hlt, hcleared⟩, fun j rest => ?_, hagree⟩
    rw [readAt?_behind hcleared, readAt?_behind hread, readAt?_cons, readAt?_cons,
      step?_list_index, step?_list_index, List.getElem?_eraseIdx]
    split <;> rfl

/-! ## Types and classes -/

/-- A type or a class that meets a list, as the index of the first item that fits. -/
def pin (conventions : FieldConventions) (v : Value) (segment : Segment) : Segment :=
  match v with
  | list items =>
    if segment.isPlace then segment
    else
      match items.findIdx? (segment.fits conventions) with
      | some position => .index position
      | none => segment
  | _ => segment

/-- The path with the index of the first item that fits for every type and class on its way, as
far as it leads somewhere. -/
def pinned (conventions : FieldConventions) : Value → List Segment → List Segment
  | _, [] => []
  | v, segment :: rest =>
    pin conventions v segment ::
      match step? conventions v segment with
      | some child => pinned conventions child rest
      | none => rest

theorem pinned_ne_nil (v : Value) {path : List Segment} (h : path ≠ []) :
    pinned conventions v path ≠ [] := by
  obtain ⟨segment, rest, rfl⟩ := List.exists_cons_of_ne_nil h
  exact List.cons_ne_nil _ _

theorem itemIndex?_of_not_place (items : List Value) {segment : Segment}
    (h : segment.isPlace = false) :
    itemIndex? conventions items segment = items.findIdx? (segment.fits conventions) := by
  cases segment with
  | key _ => cases h
  | index _ => cases h
  | _ => rfl

/-- A type or a class that meets a list leads to the first item that fits. -/
theorem slot_of_not_place (items : List Value) {segment : Segment}
    (h : segment.isPlace = false) :
    slot conventions (list items) segment =
      match items.findIdx? (segment.fits conventions) with
      | some position => .ok (.item items position)
      | none => .error (.notFound segment) := by
  have hkey : ∀ name, segment ≠ .key name := by
    rintro name rfl
    cases h
  have hindex : itemIndex? conventions items segment =
      items.findIdx? (segment.fits conventions) := itemIndex?_of_not_place items h
  rw [slot_list hkey]
  cases hfind : items.findIdx? (segment.fits conventions) <;> simp [hindex, hfind]

/-- The index leads to where the type or the class leads. -/
theorem slot_pin (v : Value) (segment : Segment) :
    slot conventions v (pin conventions v segment) = slot conventions v segment := by
  cases v with
  | list items =>
    rw [pin]
    cases hplace : segment.isPlace with
    | true => rfl
    | false =>
      rw [slot_of_not_place items hplace]
      cases hfind : items.findIdx? (segment.fits conventions) with
      | none => simp [slot_of_not_place items hplace, hfind]
      | some position =>
        have hlt : position < items.length := (List.findIdx?_eq_some_iff_getElem.mp hfind).1
        simp [slot, itemIndex?, hlt]
  | _ => rfl

/-- What leads to a slot leads there as a place. -/
theorem isPlace_pin {v : Value} {segment : Segment} {s : Slot}
    (h : slot conventions v segment = .ok s) : (pin conventions v segment).isPlace = true := by
  rcases slot_eq_ok h with ⟨entries, name, rfl, rfl, _⟩ | ⟨items, position, rfl, hindex, _, _⟩
  · rfl
  · rw [pin]
    cases hplace : segment.isPlace with
    | true => exact hplace
    | false =>
      rw [itemIndex?_of_not_place items hplace] at hindex
      rw [hindex]
      rfl

/-- **Types and classes are indexes.** A path writes what the path with the indexes of the items
that it finds writes, and fails as that does. -/
theorem writeAt_pinned (new v : Value) (path : List Segment) :
    writeAt conventions new v (pinned conventions v path) = writeAt conventions new v path := by
  induction path generalizing v with
  | nil => rfl
  | cons segment rest ih =>
    have hpin : slot conventions v (pin conventions v segment) = slot conventions v segment :=
      slot_pin v segment
    rw [pinned]
    cases hs : slot conventions v segment with
    | error e => rw [writeAt_of_no_slot hs, writeAt_of_no_slot (hpin.trans hs)]
    | ok s =>
      have hpin : slot conventions v (pin conventions v segment) = .ok s := hpin.trans hs
      rw [step?_of_slot hs]
      cases hcontent : s.content with
      | some child =>
        dsimp only
        by_cases hrest : rest = []
        · rw [hrest, pinned, writeAt_single, writeAt_single, hs, hpin]
        · rw [writeAt_of_content hs hcontent new hrest,
            writeAt_of_content hpin hcontent new (pinned_ne_nil child hrest), ih child]
      | none =>
        -- Only a key can be new, and a key is not looked for.
        have hkey : pin conventions v segment = segment := by
          rcases slot_eq_ok hs with ⟨_, _, rfl, rfl, _⟩ | ⟨items, i, _, _, hlt, rfl⟩
          · rfl
          · rw [Slot.content, List.getElem?_eq_getElem hlt] at hcontent
            cases hcontent
        rw [hkey]

/-- Where something is written, every segment has been found. -/
theorem isPlace_pinned {new v w : Value} {path : List Segment}
    (h : writeAt conventions new v path = .ok w) :
    (pinned conventions v path).all Segment.isPlace = true := by
  induction path generalizing v w with
  | nil => rfl
  | cons segment rest ih =>
    rw [pinned, List.all_cons, Bool.and_eq_true]
    cases hs : slot conventions v segment with
    | error e =>
      rw [writeAt_of_no_slot hs] at h
      cases h
    | ok s =>
      refine ⟨isPlace_pin hs, ?_⟩
      rw [step?_of_slot hs]
      by_cases hrest : rest = []
      · rw [hrest]
        cases s.content <;> rfl
      · cases hcontent : s.content with
        | none =>
          rw [writeAt_of_no_content hs hcontent new hrest] at h
          cases h
        | some child =>
          rw [writeAt_of_content hs hcontent new hrest] at h
          cases hwritten : writeAt conventions new child rest with
          | error e =>
            rw [hwritten] at h
            cases h
          | ok w => exact ih hwritten

/-- A type or a class without an item that fits is reported, and nothing is written. -/
theorem writeAt_of_none_fits {v : Value} {front rest : List Segment} {segment : Segment}
    {items : List Value} (hsegment : segment.isPlace = false)
    (hread : readAt? conventions v front = some (list items))
    (hfits : ∀ item ∈ items, segment.fits conventions item = false) (new : Value) :
    writeAt conventions new v (front ++ segment :: rest) = .error (.notFound segment) := by
  obtain ⟨put, hput, _⟩ := writeAt_append (List.cons_ne_nil segment rest) hread
  have hnone : items.findIdx? (segment.fits conventions) = none :=
    List.findIdx?_eq_none_iff.mpr hfits
  have hslot : slot conventions (list items) segment = .error (.notFound segment) := by
    rw [slot_of_not_place items hsegment, hnone]
  rw [hput new, writeAt_of_no_slot hslot]
  rfl

/-! ## The laws -/

/-- **Writing and reading at paths obey the laws of a lens.** A value that has been written at a
place is read there without the markers inside it, and what parts ways from the path is as it was.
The marker removes an entry of an object, or an item of a list, and nothing else. Types and classes
do what the indexes of the first items that fit do, and fail where no item of a list fits. -/
theorem writeAt_lens (conventions : FieldConventions) {v : Value} (hv : v.Distinct) :
    (∀ (path : List Segment) (new w : Value), path.all Segment.isPlace = true →
      new.isDeletion = false → writeAt conventions new v path = .ok w →
        readAt? conventions w path = some new.withoutDeletions ∧
        ∀ other : List Segment, other.all Segment.isPlace = true → Diverge path other →
          readAt? conventions w other = readAt? conventions v other) ∧
    (∀ (front : List Segment) (name : String) (w : Value), front.all Segment.isPlace = true →
      writeAt conventions deletion v (front ++ [.key name]) = .ok w →
        readAt? conventions w (front ++ [.key name]) = none ∧
        (∃ entries : Table Value, readAt? conventions v front = some (object entries) ∧
          readAt? conventions w front = some (object (entries.filter fun e => e.1 ≠ name))) ∧
        ∀ other : List Segment, other.all Segment.isPlace = true →
          Diverge (front ++ [.key name]) other →
          readAt? conventions w other = readAt? conventions v other) ∧
    (∀ (front : List Segment) (i : Nat) (w : Value), front.all Segment.isPlace = true →
      writeAt conventions deletion v (front ++ [.index i]) = .ok w →
        (∃ items : List Value, readAt? conventions v front = some (list items) ∧
          i < items.length ∧ readAt? conventions w front = some (list (items.eraseIdx i))) ∧
        (∀ (j : Nat) (rest : List Segment), readAt? conventions w (front ++ .index j :: rest) =
          readAt? conventions v (front ++ .index (if j < i then j else j + 1) :: rest)) ∧
        ∀ other : List Segment, other.all Segment.isPlace = true → Diverge front other →
          readAt? conventions w other = readAt? conventions v other) ∧
    (∀ (path : List Segment) (new : Value),
      writeAt conventions new v path = writeAt conventions new v (pinned conventions v path) ∧
        ∀ w, writeAt conventions new v path = .ok w →
          (pinned conventions v path).all Segment.isPlace = true) ∧
    ∀ (front rest : List Segment) (segment : Segment) (items : List Value) (new : Value),
      segment.isPlace = false → readAt? conventions v front = some (list items) →
      (∀ item ∈ items, segment.fits conventions item = false) →
        writeAt conventions new v (front ++ segment :: rest) = .error (.notFound segment) := by
  refine ⟨?_, ?_, ?_, ?_, ?_⟩
  · intro path new w hplaces hnew h
    exact readAt?_writeAt hplaces hnew h
  · intro front name w hplaces h
    exact readAt?_writeAt_deletion_key hv hplaces h
  · intro front i w hplaces h
    exact readAt?_writeAt_deletion_index hplaces h
  · intro path new
    exact ⟨(writeAt_pinned new v path).symm, fun w h => isPlace_pinned h⟩
  · intro front rest segment items new hsegment hread hfits
    exact writeAt_of_none_fits hsegment hread hfits new

/-- In a ship of two parts, a value with a marker inside is written at the thrust of the first
part, the type of the second one and the whole first one are removed, the class `big` finds the
second one, and there is no part of the type `Wing`. -/
theorem writeAt_lens_ship :
    let conventions := FieldConventions.standard
    let engine := object [("type", string "Engine"), ("thrust", int 100)]
    let tank := object [("type", string "Tank"), ("class", list [string "big"])]
    let ship := object [("name", string "Kon"), ("parts", list [engine, tank])]
    let tuned := object [("name", string "Kon"), ("parts", list
      [object [("type", string "Engine"), ("thrust", object [("max", int 250)])], tank])]
    let untyped := object [("name", string "Kon"), ("parts", list
      [engine, object [("class", list [string "big"])]])]
    let light := object [("name", string "Kon"), ("parts", list [tank])]
    let thrust := [Segment.key "parts", .index 0, .key "thrust"]
    let new := object [("max", int 250), ("min", deletion)]
    ship.Distinct ∧
    writeAt conventions new ship thrust = .ok tuned ∧
    readAt? conventions tuned thrust = some (object [("max", int 250)]) ∧
    readAt? conventions tuned [.key "parts", .index 1] =
      readAt? conventions ship [.key "parts", .index 1] ∧
    writeAt conventions deletion ship ([.key "parts", .index 1] ++ [.key "type"]) = .ok untyped ∧
    readAt? conventions untyped ([.key "parts", .index 1] ++ [.key "type"]) = none ∧
    writeAt conventions deletion ship ([.key "parts"] ++ [.index 0]) = .ok light ∧
    readAt? conventions light ([.key "parts"] ++ .index 0 :: [.key "class"]) =
      readAt? conventions ship ([.key "parts"] ++ .index 1 :: [.key "class"]) ∧
    writeAt conventions new ship [.key "parts", .ofClass "big", .key "tier"] =
      writeAt conventions new ship [.key "parts", .index 1, .key "tier"] ∧
    writeAt conventions new ship ([.key "parts"] ++ .ofType "Wing" :: [.key "tier"]) =
      .error (.notFound (.ofType "Wing")) := by
  intro conventions engine tank ship tuned untyped light thrust new
  have hnames : ∀ t : Table Value, (Table.names t).Nodup → t.Distinct := fun _ h => h
  have hengine : engine.Distinct := ⟨hnames _ (by decide), trivial, trivial, trivial⟩
  have htank : tank.Distinct := ⟨hnames _ (by decide), trivial, ⟨trivial, trivial⟩, trivial⟩
  have hship : ship.Distinct :=
    ⟨hnames _ (by decide), trivial, ⟨hengine, htank, trivial⟩, trivial⟩
  obtain ⟨hwrite, hkey, hindex, hpinned, hmissing⟩ := writeAt_lens conventions hship
  have htuned : writeAt conventions new ship thrust = .ok tuned := rfl
  have huntyped : writeAt conventions deletion ship ([.key "parts", .index 1] ++ [.key "type"]) =
      .ok untyped := rfl
  have hlight : writeAt conventions deletion ship ([.key "parts"] ++ [.index 0]) = .ok light := rfl
  obtain ⟨hread, hframe⟩ := hwrite thrust new tuned rfl rfl htuned
  obtain ⟨hgone, _⟩ := hkey [.key "parts", .index 1] "type" untyped rfl huntyped
  obtain ⟨_, hshift, _⟩ := hindex [.key "parts"] 0 light rfl hlight
  refine ⟨hship, htuned, hread, ?_, huntyped, hgone, hlight, hshift 0 [.key "class"], ?_, ?_⟩
  · exact hframe [.key "parts", .index 1] rfl (.inr (.inl (by decide)))
  · exact (hpinned [.key "parts", .ofClass "big", .key "tier"] new).1
  · apply hmissing [.key "parts"] [.key "tier"] (.ofType "Wing") [engine, tank] new rfl rfl
    intro item hitem
    simp only [List.mem_cons, List.not_mem_nil, or_false] at hitem
    rcases hitem with rfl | rfl <;> decide

end Value

end Graft
