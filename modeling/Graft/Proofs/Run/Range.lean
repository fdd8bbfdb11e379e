import Graft.Proofs.Run.Evolution

/-!
What loops over ranges visit.

A loop over a range counts: it goes on from its first number as often as there are numbers, each
time with a number that is greater by one. Here the numbers are listed. They are those of the
range, in order and without overflow, also where a bound is the least or the greatest word there
is: whoever goes by the count needs neither the number before an end nor the one behind it.

A loop then ends in one of three ways. It comes to the end of the list, or the limit cuts the
list off and the loop fails there, or the body stops the loop at one of the numbers. In each case
the body has run for the numbers up to there, each time on the machine that the time before has
left, and for none behind.
-/

set_option autoImplicit false

namespace Graft

/-! ## The numbers of a range -/

/-- Whether a number is on the near side of the end of a range. -/
def RangeEnd.Admits (last : Int64) : RangeEnd → Int64 → Prop
  | exclusive, n => n < last
  | inclusive, n => n ≤ last

/-- So many numbers from one on, each greater by one than the one before. -/
def numbersFrom : Int → Nat → List Int64
  | _, 0 => []
  | first, count + 1 => Int64.ofInt first :: numbersFrom (first + 1) count

/-- The numbers of a range. -/
def rangeNumbers (first last : Int64) (end_ : RangeEnd) : List Int64 :=
  numbersFrom first.toInt (Run.rangeCount first last end_)

/-- A list holds the numbers of a range in order: the number at each place is as far behind the
first one as the place, and the numbers are those from the first one to the end. -/
structure Spans (first last : Int64) (end_ : RangeEnd) (numbers : List Int64) : Prop where
  toInt_getElem : ∀ (i : Nat) (h : i < numbers.length), (numbers[i]).toInt = first.toInt + i
  mem_iff : ∀ n, n ∈ numbers ↔ first ≤ n ∧ end_.Admits last n

theorem length_numbersFrom (first : Int) (count : Nat) :
    (numbersFrom first count).length = count := by
  induction count generalizing first with
  | zero => rfl
  | succ count ih => rw [numbersFrom, List.length_cons, ih]

theorem getElem_numbersFrom {first : Int} {count i : Nat}
    (h : i < (numbersFrom first count).length) :
    (numbersFrom first count)[i] = Int64.ofInt (first + i) := by
  induction count generalizing first i with
  | zero => exact absurd h (Nat.not_lt_zero i)
  | succ count ih =>
    cases i with
    | zero =>
      simp only [numbersFrom, List.getElem_cons_zero, Int.natCast_zero, Int.add_zero]
    | succ i =>
      simp only [numbersFrom, List.getElem_cons_succ]
      rw [ih]
      congr 1
      omega

/-- As far behind the first number as there are numbers in a range, everything is a word. -/
theorem toInt_ofInt_of_lt_rangeCount {first last : Int64} {end_ : RangeEnd} {i : Nat}
    (h : i < Run.rangeCount first last end_) :
    (Int64.ofInt (first.toInt + i)).toInt = first.toInt + i := by
  have hleast := first.le_toInt
  have hbelow := last.toInt_lt
  have hlast : first.toInt + i ≤ last.toInt := by
    cases end_ <;> simp only [Run.rangeCount] at h <;> omega
  exact Int64.toInt_ofInt_of_le (by omega) (by omega)

/-- A number is in a range if it is not farther behind the first one than there are numbers. -/
theorem lt_rangeCount_iff {first last n : Int64} {end_ : RangeEnd} (hn : first ≤ n) :
    (n.toInt - first.toInt).toNat < Run.rangeCount first last end_ ↔ end_.Admits last n := by
  rw [Int64.le_iff_toInt_le] at hn
  cases end_ with
  | exclusive =>
    rw [RangeEnd.Admits, Int64.lt_iff_toInt_lt, Run.rangeCount]
    omega
  | inclusive =>
    rw [RangeEnd.Admits, Int64.le_iff_toInt_le, Run.rangeCount]
    omega

theorem spans_rangeNumbers (first last : Int64) (end_ : RangeEnd) :
    Spans first last end_ (rangeNumbers first last end_) := by
  have hlength : (rangeNumbers first last end_).length = Run.rangeCount first last end_ :=
    length_numbersFrom _ _
  have hget : ∀ (i : Nat) (h : i < (rangeNumbers first last end_).length),
      ((rangeNumbers first last end_)[i]).toInt = first.toInt + i := by
    intro i h
    rw [hlength] at h
    simp only [rangeNumbers]
    rw [getElem_numbersFrom, toInt_ofInt_of_lt_rangeCount h]
  refine ⟨hget, fun n => ⟨fun hn => ?_, fun ⟨hfirst, hlast⟩ => ?_⟩⟩
  · obtain ⟨i, h, rfl⟩ := List.getElem_of_mem hn
    have hi := hget i h
    have hfirst : first ≤ (rangeNumbers first last end_)[i] := by
      rw [Int64.le_iff_toInt_le, hi]
      omega
    refine ⟨hfirst, (lt_rangeCount_iff hfirst).mp ?_⟩
    rw [hi, ← hlength]
    omega
  · -- The number is at the place that is as far behind the first one as it is.
    have hplace : (n.toInt - first.toInt).toNat < (rangeNumbers first last end_).length := by
      rw [hlength]
      exact (lt_rangeCount_iff hfirst).mpr hlast
    have hn : (rangeNumbers first last end_)[(n.toInt - first.toInt).toNat] = n := by
      rw [Int64.le_iff_toInt_le] at hfirst
      rw [← Int64.toInt_inj, hget _ hplace]
      omega
    rw [← hn]
    exact List.getElem_mem hplace

namespace Run

/-! ## Rounds of a loop -/

/-- A body runs for numbers in turn and goes on each time. -/
inductive Rounds (body : Int64 → Run Flow) : List Int64 → Machine → Machine → Prop
  | nil (m : Machine) : Rounds body [] m m
  | cons {n : Int64} {rest : List Int64} {m m₁ m₂ : Machine} :
    body n m = .ok .next m₁ → Rounds body rest m₁ m₂ → Rounds body (n :: rest) m m₂

/-- How a loop over numbers ends that may run its body so many times. -/
inductive Looped (loc : Coordinate) (limit : Nat) (body : Int64 → Run Flow) (budget : Nat)
    (numbers : List Int64) (m : Machine) : EStateM.Result Halt Machine Flow → Prop
  | done {m' : Machine} :
    numbers.length ≤ budget → Rounds body numbers m m' →
    Looped loc limit body budget numbers m (.ok .next m')
  | cut {m' : Machine} :
    budget < numbers.length → Rounds body (numbers.take budget) m m' →
    Looped loc limit body budget numbers m (.error (.failed ⟨loc, .loopLimit limit⟩) m')
  /-- The body stops the loop. -/
  | stopped (before : List Int64) {after : List Int64} {n : Int64} {m' : Machine}
    {r : EStateM.Result Halt Machine Flow} :
    numbers = before ++ n :: after → before.length < budget → Rounds body before m m' →
    body n m' = r → (∀ m'', r ≠ .ok .next m'') → Looped loc limit body budget numbers m r

section

variable {loc : Coordinate} {limit budget : Nat} {body : Int64 → Run Flow} {n : Int64}
  {rest : List Int64} {m : Machine} {r : EStateM.Result Halt Machine Flow}

theorem rounds_cons_iff {m' : Machine} :
    Rounds body (n :: rest) m m' ↔ ∃ m₁, body n m = .ok .next m₁ ∧ Rounds body rest m₁ m' := by
  constructor
  · intro h
    cases h with
    | cons hn hrest => exact ⟨_, hn, hrest⟩
  · rintro ⟨m₁, hn, hrest⟩
    exact .cons hn hrest

/-- Without numbers there is nothing to do. -/
theorem looped_nil_iff : Looped loc limit body budget [] m r ↔ r = .ok .next m := by
  constructor
  · intro h
    cases h with
    | done _ hrounds =>
      cases hrounds
      rfl
    | cut hlong _ => exact absurd hlong (Nat.not_lt_zero _)
    | stopped before hnumbers => cases before <;> cases hnumbers
  · rintro rfl
    exact .done (Nat.zero_le _) (.nil m)

/-- A loop that may not run its body any more fails if there is another number. -/
theorem looped_zero_iff :
    Looped loc limit body 0 (n :: rest) m r ↔ r = .error (.failed ⟨loc, .loopLimit limit⟩) m := by
  constructor
  · intro h
    cases h with
    | done hshort _ => exact absurd hshort (Nat.not_succ_le_zero _)
    | cut _ hrounds =>
      cases hrounds
      rfl
    | stopped _ _ hbefore => exact absurd hbefore (Nat.not_lt_zero _)
  · rintro rfl
    exact .cut (Nat.succ_pos _) (.nil m)

/-- Any other loop runs its body for the first number. It stops there, or goes on with the
numbers behind it. -/
theorem looped_succ_iff :
    Looped loc limit body (budget + 1) (n :: rest) m r ↔
      (∃ m₁, body n m = .ok .next m₁ ∧ Looped loc limit body budget rest m₁ r) ∨
      (body n m = r ∧ ∀ m', r ≠ .ok .next m') := by
  constructor
  · intro h
    cases h with
    | done hshort hrounds =>
      obtain ⟨m₁, hn, hrest⟩ := rounds_cons_iff.mp hrounds
      exact .inl ⟨m₁, hn, .done (Nat.le_of_succ_le_succ hshort) hrest⟩
    | cut hlong hrounds =>
      obtain ⟨m₁, hn, hrest⟩ := rounds_cons_iff.mp hrounds
      exact .inl ⟨m₁, hn, .cut (Nat.lt_of_succ_lt_succ hlong) hrest⟩
    | stopped before hnumbers hbefore hrounds hr hstop =>
      cases hrounds with
      | nil =>
        cases hnumbers
        exact .inr ⟨hr, hstop⟩
      | cons hn hrounds =>
        cases hnumbers
        exact .inl ⟨_, hn, .stopped _ rfl (Nat.lt_of_succ_lt_succ hbefore) hrounds hr hstop⟩
  · rintro (⟨m₁, hn, hrest⟩ | ⟨hr, hstop⟩)
    · cases hrest with
      | done hshort hrounds => exact .done (Nat.succ_le_succ hshort) (.cons hn hrounds)
      | cut hlong hrounds => exact .cut (Nat.succ_lt_succ hlong) (.cons hn hrounds)
      | stopped before hnumbers hbefore hrounds hr hstop =>
        subst hnumbers
        exact .stopped (n :: before) rfl (Nat.succ_lt_succ hbefore) (.cons hn hrounds) hr hstop
    · exact .stopped [] rfl (Nat.succ_pos _) (.nil m) hr hstop

/-- Counting from a number on is going through the numbers from there. -/
theorem forRange_eq_iff (loc : Coordinate) (limit : Nat) (body : Int64 → Run Flow) (first : Int)
    (count budget : Nat) (m : Machine) (r : EStateM.Result Halt Machine Flow) :
    forRange loc limit body first count budget m = r ↔
      Looped loc limit body budget (numbersFrom first count) m r := by
  induction count generalizing first budget m with
  | zero =>
    rw [numbersFrom, looped_nil_iff]
    exact eq_comm
  | succ count ih =>
    cases budget with
    | zero =>
      rw [numbersFrom, looped_zero_iff]
      exact eq_comm
    | succ budget =>
      rw [numbersFrom, looped_succ_iff, forRange]
      -- The body stops the loop unless it goes on.
      have hstops : (∀ m₁, body (Int64.ofInt first) m ≠ .ok .next m₁) →
          ((∃ m₁, body (Int64.ofInt first) m = .ok .next m₁ ∧
            Looped loc limit body budget (numbersFrom (first + 1) count) m₁ r) ∨
          (body (Int64.ofInt first) m = r ∧ ∀ m', r ≠ .ok .next m') ↔
          body (Int64.ofInt first) m = r) := by
        intro hstop
        rw [or_iff_right fun ⟨m₁, hnext, _⟩ => hstop m₁ hnext]
        exact ⟨And.left, fun hr => ⟨hr, hr ▸ hstop⟩⟩
      cases hn : body (Int64.ofInt first) m with
      | error e m₁ =>
        rw [hn] at hstops
        rw [bind_error hn, hstops fun m₁ h => by cases h]
      | ok flow m₁ =>
        rw [bind_ok hn]
        cases flow with
        | next =>
          rw [ih]
          constructor
          · exact fun hrest => .inl ⟨m₁, rfl, hrest⟩
          · rintro (⟨_, hnext, hrest⟩ | ⟨rfl, hstop⟩)
            · cases hnext
              exact hrest
            · exact absurd rfl (hstop m₁)
        | returned v =>
          rw [hn] at hstops
          rw [hstops fun m₁ h => by cases h]
          exact Iff.rfl

end

/-- A round of a loop over a range runs the block in a frame that it opens for it, and in which
nothing is bound but the number. -/
theorem rangeBody_eq (p : Provision) (enter : Enter) (env : Environment) (ctx : Context)
    (name : String) (body : List Statement) (n : Int64) (m : Machine) :
    ∃ frames : Frames, rangeBody p enter env ctx name body n m =
        runBlock p enter ⟨env.global, m.frames.size :: env.inner⟩ ctx body { m with frames } ∧
      frames.size = m.frames.size + 1 ∧
      frames.bindings m.frames.size = [(name, .int n)] ∧
      ∀ id, id ≠ m.frames.size → frames.bindings id = m.frames.bindings id := by
  refine ⟨m.frames.fresh.2.bind m.frames.size name (.int n), rfl, ?_, ?_, fun id hid => ?_⟩
  · rw [Frames.size_bind, Frames.size_fresh]
  · rw [Frames.bindings_bind, if_pos ⟨rfl, m.frames.size_lt_fresh⟩, Frames.bindings_fresh_self]
    rfl
  · rw [Frames.bindings_bind, if_neg fun h => hid h.1.symm, Frames.bindings_fresh]

/-- **The numbers of a range, up to the limit.** When the bounds of a loop have been evaluated to
whole numbers, whatever they are, the loop goes through the numbers of the range in order, each
of which is a word. It runs its body for all of them and goes on, if they are no more than the
limit. If they are more, it runs the body for so many as the limit says and then fails at the
limit. Where the body fails or returns at one of the numbers that it is run for, the loop ends
there in the same way. Each time, the body runs in a frame of its own in which the variable is
the number. -/
theorem runStatement_forRange {p : Provision} {enter : Enter} {env : Environment} {ctx : Context}
    {first last : Expr} {a b : Int64} {m m₁ m₂ : Machine}
    (hfirst : evaluate p enter env ctx first m = .ok (.int a) m₁)
    (hlast : evaluate p enter env ctx last m₁ = .ok (.int b) m₂)
    (loc : Coordinate) (name : String) (end_ : RangeEnd) (body : List Statement) :
    let limit := p.settings.limits.maxLoopIterations
    let numbers := rangeNumbers a b end_
    let round := rangeBody p enter env ctx name body
    let loop := runStatement p enter env ctx (.forRange loc name first last end_ body)
    Spans a b end_ numbers ∧
    (∀ n m', ∃ frames : Frames, round n m' =
        runBlock p enter ⟨env.global, m'.frames.size :: env.inner⟩ ctx body { m' with frames } ∧
      frames.size = m'.frames.size + 1 ∧
      frames.bindings m'.frames.size = [(name, .int n)] ∧
      ∀ id, id ≠ m'.frames.size → frames.bindings id = m'.frames.bindings id) ∧
    (∀ r, loop m = r ↔ Looped loc limit round limit numbers m₂ r) ∧
    ∀ m', limit < numbers.length → Rounds round (numbers.take limit) m₂ m' →
      ∃ f : Failure, loop m = .error (.failed f) m' ∧ f.loc = loc ∧ f.cause.trouble = .limit := by
  intro limit numbers round loop
  have hloop : loop m = forRange loc limit round a.toInt (rangeCount a b end_) limit m₂ := by
    simp only [loop]
    rw [runStatement, bind_ok hfirst]
    exact bind_ok hlast
  have hends : ∀ r, loop m = r ↔ Looped loc limit round limit numbers m₂ r := by
    intro r
    rw [hloop]
    exact forRange_eq_iff loc limit round a.toInt (rangeCount a b end_) limit m₂ r
  refine ⟨spans_rangeNumbers a b end_, rangeBody_eq p enter env ctx name body, hends,
    fun m' hlong hrounds => ?_⟩
  exact ⟨_, (hends _).mpr (.cut hlong hrounds), rfl, rfl⟩

/-- With a limit of one, a loop from the second greatest word through the greatest runs its body
for one of the two and fails, and a loop from the least word to the least has no number. -/
theorem runStatement_forRange_ends :
    let p : Provision := ⟨.withActiveMods [], { Settings.standard with
      limits := { Settings.standard.limits with maxLoopIterations := 1 } }⟩
    let m := (Machine.start (Host.empty [])).2
    let loop (first last : Int64) (end_ : RangeEnd) : Run Flow :=
      runStatement p (enterWithin p 1) default default
        (.forRange .origin "i" (.literal .origin (.int first)) (.literal .origin (.int last)) end_
          [])
    (∃ f : Failure, ∃ m', loop 0x7FFFFFFFFFFFFFFE 0x7FFFFFFFFFFFFFFF .inclusive m =
        .error (.failed f) m' ∧ f.cause.trouble = .limit ∧
      m'.frames.bindings 1 = [("i", .int 0x7FFFFFFFFFFFFFFE)]) ∧
    loop Int64.minValue Int64.minValue .exclusive m = .ok .next m := by
  intro p m loop
  let round := rangeBody p (enterWithin p 1) default default "i" []
  have hvalue (n : Int64) : evaluate p (enterWithin p 1) default default
      (.literal .origin (.int n)) m = .ok (.int n) m := rfl
  have hranges (first last : Int64) (end_ : RangeEnd) :=
    runStatement_forRange (hvalue first) (hvalue last) .origin "i" end_ []
  constructor
  · have hlong : 1 < (rangeNumbers 0x7FFFFFFFFFFFFFFE 0x7FFFFFFFFFFFFFFF .inclusive).length := by
      decide
    have hround : round 0x7FFFFFFFFFFFFFFE m =
        .ok .next ((round 0x7FFFFFFFFFFFFFFE).after m) := rfl
    obtain ⟨f, hf, -, htrouble⟩ :=
      (hranges 0x7FFFFFFFFFFFFFFE 0x7FFFFFFFFFFFFFFF .inclusive).2.2.2 _ hlong
        (.cons hround (.nil _))
    exact ⟨f, _, hf, htrouble, rfl⟩
  · have hnone : rangeNumbers Int64.minValue Int64.minValue .exclusive = [] := by decide
    refine ((hranges Int64.minValue Int64.minValue .exclusive).2.2.1 _).mpr ?_
    rw [hnone]
    exact looped_nil_iff.mpr rfl

end Run

end Graft
