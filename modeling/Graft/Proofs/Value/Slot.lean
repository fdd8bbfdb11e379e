import Graft.Proofs.Table.Order
import Graft.Value.Path

/-!
Slots: the places in a value that one segment of a path leads to.

Reading and writing take the segments of a path apart separately. Both find the same slot, or
none: an entry of an object, which need not be there yet, or an item of a list. Reading takes what
is in the slot; writing fills it, or clears it; a change of a part fills it with what the part
becomes. So what a write does to the value is said once for each kind of slot.
-/

set_option autoImplicit false

namespace Graft

/-- Keys and indexes name a place. Types and classes name what is looked for. -/
def Segment.isPlace : Segment → Bool
  | key _ => true
  | index _ => true
  | ofType _ => false
  | ofClass _ => false

namespace Value

variable {conventions : FieldConventions}

/-- A place in a value: under a key of an object, or at a position of a list. -/
inductive Slot where
  | entry (entries : Table Value) (name : String)
  | item (items : List Value) (position : Nat)

namespace Slot

/-- What is there. -/
def content : Slot → Option Value
  | entry entries name => Table.get? entries name
  | item items position => items[position]?

/-- The holder of the slot with another value there. -/
def fill : Slot → Value → Value
  | entry entries name, x => object (Table.insert entries name x)
  | item items position, x => list (items.set position x)

/-- The holder of the slot without it. -/
def clear : Slot → Value
  | entry entries name => object (Table.erase entries name)
  | item items position => list (items.eraseIdx position)

end Slot

/-- The slot that a segment leads to, or why it leads to none. -/
def slot (conventions : FieldConventions) (v : Value) (segment : Segment) :
    Except PathError Slot :=
  match v, segment with
  | object entries, .key name => .ok (.entry entries name)
  | list items, .key name => .error (.mismatch (.key name) (list items).typeName)
  | list items, segment =>
    match itemIndex? conventions items segment with
    | some position => .ok (.item items position)
    | none => .error (.notFound segment)
  | v, segment => .error (.mismatch segment v.typeName)

/-! ## What leads to a slot -/

theorem itemIndex?_lt {items : List Value} {segment : Segment} {position : Nat}
    (h : itemIndex? conventions items segment = some position) : position < items.length := by
  cases segment with
  | key _ => cases h
  | index i =>
    rw [itemIndex?] at h
    split at h
    · cases h
      assumption
    · cases h
  | ofType tag => exact (List.findIdx?_eq_some_iff_getElem.mp h).1
  | ofClass tag => exact (List.findIdx?_eq_some_iff_getElem.mp h).1

/-- A slot is an entry of an object that a key leads to, or an item that is there. -/
theorem slot_eq_ok {v : Value} {segment : Segment} {s : Slot}
    (h : slot conventions v segment = .ok s) :
    (∃ entries name, v = object entries ∧ segment = .key name ∧ s = .entry entries name) ∨
      ∃ items position, v = list items ∧ itemIndex? conventions items segment = some position ∧
        position < items.length ∧ s = .item items position := by
  unfold slot at h
  split at h
  · cases h
    exact .inl ⟨_, _, rfl, rfl, rfl⟩
  · cases h
  · split at h
    · rename_i hindex
      cases h
      exact .inr ⟨_, _, rfl, hindex, itemIndex?_lt hindex, rfl⟩
    · cases h
  · cases h

/-- What leads to no slot is not found, or does not apply to the kind of value. -/
theorem slot_eq_error {v : Value} {segment : Segment} {e : PathError}
    (h : slot conventions v segment = .error e) :
    e = .notFound segment ∨ ∃ found, e = .mismatch segment found := by
  unfold slot at h
  split at h
  · cases h
  · cases h
    exact .inr ⟨_, rfl⟩
  · split at h
    · cases h
    · cases h
      exact .inl rfl
  · cases h
    exact .inr ⟨_, rfl⟩

theorem slot_list {items : List Value} {segment : Segment} (h : ∀ name, segment ≠ .key name) :
    slot conventions (list items) segment =
      match itemIndex? conventions items segment with
      | some position => .ok (.item items position)
      | none => .error (.notFound segment) := by
  cases segment with
  | key name => exact absurd rfl (h name)
  | _ => rfl

/-- What is read is what is in the slot. -/
theorem step?_eq (v : Value) (segment : Segment) :
    step? conventions v segment = (slot conventions v segment).toOption.bind Slot.content := by
  cases v with
  | object entries => cases segment <;> rfl
  | list items =>
    by_cases hkey : ∃ name, segment = .key name
    · obtain ⟨name, rfl⟩ := hkey
      rfl
    · rw [slot_list fun name h => hkey ⟨name, h⟩, step?]
      cases itemIndex? conventions items segment <;> rfl
  | _ => rfl

/-- What a segment leads to is in its slot. -/
theorem step?_eq_some_iff {v : Value} {segment : Segment} {child : Value} :
    step? conventions v segment = some child ↔
      ∃ s, slot conventions v segment = .ok s ∧ s.content = some child := by
  rw [step?_eq]
  cases hs : slot conventions v segment with
  | error e => simp [Except.toOption]
  | ok s => simp [Except.toOption]

theorem step?_of_slot {v : Value} {segment : Segment} {s : Slot}
    (h : slot conventions v segment = .ok s) : step? conventions v segment = s.content := by
  rw [step?_eq, h]
  rfl

/-- An item that is found is there. So nothing is read only where there is no slot, or where a key
is new. -/
theorem exists_content {v : Value} {segment : Segment} {s : Slot}
    (h : slot conventions v segment = .ok s) (hkey : ∀ name, segment ≠ .key name) :
    ∃ x, s.content = some x := by
  rcases slot_eq_ok h with ⟨_, name, _, hname, _⟩ | ⟨items, position, _, _, hlt, rfl⟩
  · exact absurd hname (hkey name)
  · exact ⟨_, List.getElem?_eq_getElem hlt⟩

/-! ## Changing what is in a slot -/

/-- A part is changed by filling or clearing its slot. -/
theorem alter_eq (v : Value) (segment : Segment)
    (change : Option Value → Except PathError (Option Value)) :
    alter conventions v segment change = do
      let s ← slot conventions v segment
      match ← change s.content with
      | some x => return s.fill x
      | none => return s.clear := by
  cases v with
  | object entries => cases segment <;> rfl
  | list items =>
    by_cases hkey : ∃ name, segment = .key name
    · obtain ⟨name, rfl⟩ := hkey
      rfl
    · have hlist : ∀ name, segment ≠ .key name := fun name h => hkey ⟨name, h⟩
      rw [slot_list hlist, alter]
      · cases itemIndex? conventions items segment <;> rfl
      · exact hlist
  | _ => rfl

/-- A part that has been changed: what its slot is filled with, if it is not cleared. -/
theorem alter_eq_ok {v w : Value} {segment : Segment}
    {change : Option Value → Except PathError (Option Value)}
    (h : alter conventions v segment change = .ok w) :
    ∃ s answer, slot conventions v segment = .ok s ∧ change s.content = .ok answer ∧
      w = answer.elim s.clear s.fill := by
  rw [alter_eq] at h
  cases hs : slot conventions v segment with
  | error e =>
    rw [hs] at h
    cases h
  | ok s =>
    rw [hs] at h
    simp only [bind, Except.bind] at h
    cases hanswer : change s.content with
    | error e =>
      rw [hanswer] at h
      cases h
    | ok answer =>
      rw [hanswer] at h
      refine ⟨s, answer, rfl, hanswer, ?_⟩
      cases answer <;> exact (Except.ok.inj h).symm

/-- A part cannot be changed where there is no slot, or where the change fails. -/
theorem alter_eq_error {v : Value} {segment : Segment} {e : PathError}
    {change : Option Value → Except PathError (Option Value)}
    (h : alter conventions v segment change = .error e) :
    slot conventions v segment = .error e ∨
      ∃ s, slot conventions v segment = .ok s ∧ change s.content = .error e := by
  rw [alter_eq] at h
  cases hs : slot conventions v segment with
  | error e' =>
    rw [hs] at h
    exact .inl (congrArg _ (Except.error.inj h))
  | ok s =>
    rw [hs] at h
    simp only [bind, Except.bind] at h
    refine .inr ⟨s, rfl, ?_⟩
    cases hanswer : change s.content with
    | error e' =>
      rw [hanswer] at h
      exact congrArg _ (Except.error.inj h)
    | ok answer =>
      rw [hanswer] at h
      cases answer <;> cases h

/-- What is written at a single segment goes into the slot; the marker clears it. -/
theorem writeAt_single (new v : Value) (segment : Segment) :
    writeAt conventions new v [segment] = do
      let s ← slot conventions v segment
      return if new.isDeletion then s.clear else s.fill new.withoutDeletions := by
  rw [writeAt, alter_eq]
  refine congrArg _ (funext fun s => ?_)
  cases new.isDeletion <;> rfl

/-- Where a segment leads to no slot, nothing is written, however the path goes on. -/
theorem writeAt_of_no_slot {v : Value} {segment : Segment} {e : PathError}
    (h : slot conventions v segment = .error e) (new : Value) (rest : List Segment) :
    writeAt conventions new v (segment :: rest) = .error e := by
  cases rest with
  | nil =>
    rw [writeAt_single, h]
    rfl
  | cons next rest =>
    rw [writeAt, alter_eq, h]
    · rfl
    · exact List.cons_ne_nil next rest

/-- What is written further on is written into what is in the slot. -/
theorem writeAt_of_content {v child : Value} {segment : Segment} {s : Slot}
    (h : slot conventions v segment = .ok s) (hchild : s.content = some child) (new : Value)
    {rest : List Segment} (hrest : rest ≠ []) :
    writeAt conventions new v (segment :: rest) =
      (writeAt conventions new child rest).map s.fill := by
  obtain ⟨next, rest, rfl⟩ := List.exists_cons_of_ne_nil hrest
  rw [writeAt, alter_eq, h]
  · simp only [bind, Except.bind, hchild]
    cases writeAt conventions new child (next :: rest) <;> rfl
  · exact hrest

/-- Only at its end may a path lead to a key that is new. -/
theorem writeAt_of_no_content {v : Value} {segment : Segment} {s : Slot}
    (h : slot conventions v segment = .ok s) (hnone : s.content = none) (new : Value)
    {rest : List Segment} (hrest : rest ≠ []) :
    writeAt conventions new v (segment :: rest) = .error (.notFound segment) := by
  obtain ⟨next, rest, rfl⟩ := List.exists_cons_of_ne_nil hrest
  rw [writeAt, alter_eq, h]
  · simp only [bind, Except.bind, hnone]
  · exact hrest

/-! ## Reading what has been changed -/

@[simp] theorem step?_object_key (entries : Table Value) (name : String) :
    step? conventions (object entries) (.key name) = Table.get? entries name := rfl

@[simp] theorem step?_list_index (items : List Value) (i : Nat) :
    step? conventions (list items) (.index i) = items[i]? := by
  rw [step?, itemIndex?]
  split
  · rfl
  · rename_i h
    rw [Option.bind_none, List.getElem?_eq_none (Nat.le_of_not_lt h)]

/-- The index of an item that is found. -/
theorem itemIndex?_index {items : List Value} {i position : Nat}
    (h : itemIndex? conventions items (.index i) = some position) : position = i := by
  rw [itemIndex?] at h
  split at h
  · exact (Option.some.inj h).symm
  · cases h

variable {v : Value} {segment other : Segment} {s : Slot}

/-- **Read back.** A place holds what its slot is filled with. -/
theorem step?_fill (h : slot conventions v segment = .ok s) (hplace : segment.isPlace = true)
    (x : Value) : step? conventions (s.fill x) segment = some x := by
  rcases slot_eq_ok h with ⟨entries, name, rfl, rfl, rfl⟩ |
    ⟨items, position, rfl, hindex, hlt, rfl⟩
  · rw [Slot.fill, step?_object_key, Table.get?_insert, if_pos rfl]
  · cases segment with
    | key name => cases hindex
    | index i =>
      obtain rfl := itemIndex?_index hindex
      rw [Slot.fill, step?_list_index, List.getElem?_set_self hlt]
    | _ => cases hplace

/-- **Frame.** Another place holds what it held when a slot is filled. -/
theorem step?_fill_of_ne (h : slot conventions v segment = .ok s)
    (hplace : segment.isPlace = true) (hother : other.isPlace = true) (hne : segment ≠ other)
    (x : Value) : step? conventions (s.fill x) other = step? conventions v other := by
  rcases slot_eq_ok h with ⟨entries, name, rfl, rfl, rfl⟩ |
    ⟨items, position, rfl, hindex, hlt, rfl⟩
  · cases other with
    | key name' =>
      rw [Slot.fill, step?_object_key, step?_object_key, Table.get?_insert,
        if_neg fun he => hne (congrArg _ he)]
    | index _ => rfl
    | _ => cases hother
  · cases segment with
    | key name => cases hindex
    | index i =>
      obtain rfl := itemIndex?_index hindex
      cases other with
      | key _ => rfl
      | index j =>
        rw [Slot.fill, step?_list_index, step?_list_index,
          List.getElem?_set_ne fun he => hne (congrArg _ he)]
      | _ => cases hother
    | _ => cases hplace

/-- A slot that is filled with what is in it is as before. -/
theorem Slot.fill_content {x : Value} (h : slot conventions v segment = .ok s)
    (hx : s.content = some x) : s.fill x = v := by
  rcases slot_eq_ok h with ⟨entries, name, rfl, rfl, rfl⟩ | ⟨items, position, rfl, _, hlt, rfl⟩
  · exact congrArg object (Table.insert_get? hx)
  · rw [Slot.content, List.getElem?_eq_getElem hlt] at hx
    obtain rfl := Option.some.inj hx
    exact congrArg list (List.set_getElem_self hlt)

end Value

end Graft
