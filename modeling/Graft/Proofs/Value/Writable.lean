import Graft.Proofs.InPlace
import Graft.Proofs.Value.Lens

/-!
Which paths can be written to, and what is left when one cannot.

A path can be written to if the location exists: the empty path always, a path to a key if it
leads to an object, and any other path if something is read there. Writing may as well be done in
place, on the value as a state: the program goes down into the slot of each segment, works on what
is in it, and whatever has become of that is in the slot when it comes back, also with an error.
It computes the same; where it fails, the state is what it was.
-/

set_option autoImplicit false

namespace Graft.Value

variable {conventions : FieldConventions}

/-! ## The location -/

/-- A path is written to if its last segment leads to a slot of what the path without it leads
to. -/
theorem exists_writeAt_iff {new v : Value} {front : List Segment} {last : Segment} :
    (∃ w, writeAt conventions new v (front ++ [last]) = .ok w) ↔
      ∃ holder s, readAt? conventions v front = some holder ∧
        slot conventions holder last = .ok s := by
  constructor
  · rintro ⟨w, h⟩
    obtain ⟨holder, s, hread, hs, _⟩ := writeAt_eq_ok h
    exact ⟨holder, s, hread, hs⟩
  · rintro ⟨holder, s, hread, hs⟩
    obtain ⟨put, hput, _⟩ := writeAt_append (List.cons_ne_nil last []) hread
    rw [hput new, writeAt_single, hs]
    exact ⟨_, rfl⟩

/-- A key is written to in any object, and nowhere else. -/
theorem exists_writeAt_key_iff {new v : Value} {front : List Segment} {name : String} :
    (∃ w, writeAt conventions new v (front ++ [.key name]) = .ok w) ↔
      ∃ entries, readAt? conventions v front = some (object entries) := by
  rw [exists_writeAt_iff]
  constructor
  · rintro ⟨holder, s, hread, hs⟩
    rcases slot_eq_ok hs with ⟨entries, _, rfl, _, _⟩ | ⟨_, _, _, hindex, _, _⟩
    · exact ⟨entries, hread⟩
    · cases hindex
  · rintro ⟨entries, hread⟩
    exact ⟨object entries, .entry entries name, hread, rfl⟩

/-- An item is written to if it is there. -/
theorem exists_writeAt_item_iff {new v : Value} {front : List Segment} {last : Segment}
    (hkey : ∀ name, last ≠ .key name) :
    (∃ w, writeAt conventions new v (front ++ [last]) = .ok w) ↔
      ∃ x, readAt? conventions v (front ++ [last]) = some x := by
  rw [exists_writeAt_iff]
  constructor
  · rintro ⟨holder, s, hread, hs⟩
    obtain ⟨x, hx⟩ := exists_content hs hkey
    refine ⟨x, ?_⟩
    rw [readAt?_behind hread, readAt?_singleton, step?_of_slot hs, hx]
  · rintro ⟨x, hx⟩
    rw [readAt?_append, Option.bind_eq_some_iff] at hx
    obtain ⟨holder, hread, hlast⟩ := hx
    rw [readAt?_singleton] at hlast
    obtain ⟨s, hs, _⟩ := step?_eq_some_iff.mp hlast
    exact ⟨holder, s, hread, hs⟩

/-! ## In place -/

/-- Finds the slot that a segment leads to. -/
def locate (conventions : FieldConventions) (segment : Segment) : EStateM PathError Value Slot := do
  ofExcept (slot conventions (← get) segment)

/-- Works in place on what is in a slot: what has become of it stays there, whether the work has
succeeded or not. -/
def Slot.within (s : Slot) (child : Value) (work : EStateM PathError Value Unit) :
    EStateM PathError Value Unit := fun _ =>
  match work child with
  | .ok () changed => .ok () (s.fill changed)
  | .error e changed => .error e (s.fill changed)

/-- Writes at the end of a path, into the value that is the state. -/
def writeInPlace (conventions : FieldConventions) (new : Value) :
    List Segment → EStateM PathError Value Unit
  | [] => set new.withoutDeletions
  | [last] => do
    let s ← locate conventions last
    set (if new.isDeletion then s.clear else s.fill new.withoutDeletions)
  | segment :: rest => do
    let s ← locate conventions segment
    match s.content with
    | some child => s.within child (writeInPlace conventions new rest)
    | none => throw (.notFound segment)

theorem locate_ok {v : Value} {segment : Segment} {s : Slot}
    (h : slot conventions v segment = .ok s) : locate conventions segment v = .ok s v := by
  show (ofExcept (slot conventions v segment) : EStateM PathError Value Slot) v = _
  rw [h]
  rfl

theorem locate_error {v : Value} {segment : Segment} {e : PathError}
    (h : slot conventions v segment = .error e) : locate conventions segment v = .error e v := by
  show (ofExcept (slot conventions v segment) : EStateM PathError Value Slot) v = _
  rw [h]
  rfl

/-- Work on what is in a slot ends in place if the work itself does. -/
theorem Slot.within_eq {v child : Value} {segment : Segment} {s : Slot}
    {work : EStateM PathError Value Unit} {outcome : Except PathError Value}
    (h : slot conventions v segment = .ok s) (hchild : s.content = some child)
    (hwork : work child = settleUnit child outcome) :
    s.within child work v = settleUnit v (outcome.map s.fill) := by
  rw [Slot.within, hwork]
  cases outcome with
  | ok w => rfl
  | error e =>
    -- The slot gets back what was in it.
    show EStateM.Result.error e (s.fill child) = _
    rw [Slot.fill_content h hchild]
    rfl

/-- **A write that fails in place leaves the value as it was**, and one that succeeds makes it
what the path is said to make of it. -/
theorem writeInPlace_eq (new v : Value) (path : List Segment) :
    writeInPlace conventions new path v = settleUnit v (writeAt conventions new v path) := by
  induction path generalizing v with
  | nil => rfl
  | cons segment rest ih =>
    cases hs : slot conventions v segment with
    | error e =>
      rw [writeAt_of_no_slot hs]
      show _ = EStateM.Result.error e v
      cases rest <;> simp only [writeInPlace, bind, EStateM.bind, locate_error hs]
    | ok s =>
      cases rest with
      | nil =>
        rw [writeAt_single, hs]
        simp only [writeInPlace, bind, EStateM.bind, locate_ok hs]
        rfl
      | cons next rest =>
        have hrest : next :: rest ≠ [] := List.cons_ne_nil next rest
        cases hcontent : s.content with
        | none =>
          rw [writeAt_of_no_content hs hcontent new hrest]
          simp only [writeInPlace, bind, EStateM.bind, locate_ok hs, hcontent]
          rfl
        | some child =>
          rw [writeAt_of_content hs hcontent new hrest]
          simp only [writeInPlace, bind, EStateM.bind, locate_ok hs, hcontent]
          exact Slot.within_eq hs hcontent (ih child)

/-! ## Success and failure -/

/-- **A path is written to exactly if its location exists, and otherwise nothing is changed.** The
empty path is always written to, a path to a key if the path without the key leads to an object,
and a path to an item if that item is read. In place, a write that succeeds makes the value what
it is said to make of it, and one that fails leaves it as it was. -/
theorem writeAt_succeeds_iff (conventions : FieldConventions) (new v : Value) :
    (∃ w, writeAt conventions new v [] = .ok w) ∧
    (∀ (front : List Segment) (name : String),
      (∃ w, writeAt conventions new v (front ++ [.key name]) = .ok w) ↔
        ∃ entries, readAt? conventions v front = some (object entries)) ∧
    (∀ (front : List Segment) (last : Segment), (∀ name, last ≠ .key name) →
      ((∃ w, writeAt conventions new v (front ++ [last]) = .ok w) ↔
        ∃ x, readAt? conventions v (front ++ [last]) = some x)) ∧
    ∀ path : List Segment, writeInPlace conventions new path v =
      match writeAt conventions new v path with
      | .ok w => .ok () w
      | .error e => .error e v := by
  refine ⟨⟨_, rfl⟩, ?_, ?_, ?_⟩
  · intro front name
    exact exists_writeAt_key_iff
  · intro front last hkey
    exact exists_writeAt_item_iff hkey
  · intro path
    rw [writeInPlace_eq]
    cases writeAt conventions new v path <;> rfl

/-- In a ship with one part, an entry can be made in the part, but not in its class, which is a
text; the second part, which there is not, cannot be removed, and the ship stays as it is. -/
theorem writeAt_succeeds_iff_ship :
    let conventions := FieldConventions.standard
    let ship := object [("parts", list [object [("class", string "big")]])]
    (∃ w, writeAt conventions (int 1) ship ([.key "parts", .ofClass "big"] ++ [.key "tier"]) =
      .ok w) ∧
    (¬ ∃ w, writeAt conventions (int 1) ship
      ([.key "parts", .index 0, .key "class"] ++ [.key "tier"]) = .ok w) ∧
    (∃ w, writeAt conventions (int 1) ship ([.key "parts"] ++ [.ofClass "big"]) = .ok w) ∧
    (¬ ∃ w, writeAt conventions deletion ship ([.key "parts"] ++ [.index 1]) = .ok w) ∧
    writeInPlace conventions deletion [.key "parts", .index 1] ship =
      .error (.notFound (.index 1)) ship := by
  intro conventions ship
  obtain ⟨_, hkey, hitem, hplace⟩ := writeAt_succeeds_iff conventions (int 1) ship
  obtain ⟨_, _, hremoved, hkept⟩ := writeAt_succeeds_iff conventions deletion ship
  refine ⟨?_, ?_, ?_, ?_, ?_⟩
  · exact (hkey [.key "parts", .ofClass "big"] "tier").mpr ⟨_, rfl⟩
  · rw [hkey [.key "parts", .index 0, .key "class"] "tier"]
    rintro ⟨entries, h⟩
    cases Option.some.inj h
  · exact (hitem [.key "parts"] (.ofClass "big") (by simp)).mpr ⟨_, rfl⟩
  · rw [hremoved [.key "parts"] (.index 1) (by simp)]
    rintro ⟨x, h⟩
    cases h
  · exact hkept [.key "parts", .index 1]

end Graft.Value
