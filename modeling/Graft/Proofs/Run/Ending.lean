import Graft.Proofs.Run.Composition
import Graft.Proofs.Run.Nesting
import Graft.Proofs.Run.Termination

/-!
How executions end.

Calls do not go on for ever, so a halt is traced back to where it comes from, and nothing catches
it on its way out. Levels never run out in an execution, since calls fail at their limit before.
So an execution ends with a report or with a failure, unless it comes to the operation that traps.
And it fails for a fault of a patch only where it comes to a part that could not be read.
-/

set_option autoImplicit false

namespace Graft

open Run

variable {p : Provision}

namespace Moment

/-! ## Halts of whole executions -/

/-- **Where halts come from.** A halt goes back to a moment that is come to, and at which a
failure originates, the operation that traps is computed, or a call is made for which no level is
left. -/
theorem Halts.traced {μ : Moment} {e : Halt} (h : μ.Halts p e) :
    ∃ ν, Reaches p μ ν ∧
      ((∃ f, e = .failed f ∧ ν.Originates p f) ∨
        e = .trapped ∧ ν.Traps p ∨ e = .exhausted ∧ ν.levels = 0) := by
  -- Calls do not go on for ever, so the halt is traced from call to call.
  induction μ using (next_wellFounded p).induction with
  | _ μ ih =>
    rcases h.explained with hfailed | htraps | hlevels | ⟨ν, hν, hhalts⟩
    · exact ⟨μ, .refl, .inl hfailed⟩
    · exact ⟨μ, .refl, .inr (.inl htraps)⟩
    · exact ⟨μ, .refl, .inr (.inr hlevels)⟩
    · obtain ⟨κ, hκ, horigin⟩ := ih ν hν hhalts
      exact ⟨κ, .head hν hκ, horigin⟩

/-- What is no failure goes back to the operation that traps or to a call for which no level is
left. -/
theorem Halts.origin {μ : Moment} {e : Halt} (h : μ.Halts p e) :
    (∃ f, e = .failed f) ∨
      ∃ ν, Reaches p μ ν ∧ (e = .trapped ∧ ν.Traps p ∨ e = .exhausted ∧ ν.levels = 0) := by
  obtain ⟨ν, hν, ⟨f, hf, _⟩ | horigin⟩ := h.traced
  · exact .inl ⟨f, hf⟩
  · exact .inr ⟨ν, hν, horigin⟩

/-- A failure goes back to a moment at which it originates. -/
theorem Halts.originates {μ : Moment} {f : Failure} (h : μ.Halts p (.failed f)) :
    ∃ ν, Reaches p μ ν ∧ ν.Originates p f := by
  obtain ⟨ν, hν, ⟨f', heq, horigin⟩ | ⟨he, _⟩ | ⟨he, _⟩⟩ := h.traced
  · cases heq
    exact ⟨ν, hν, horigin⟩
  · cases he
  · cases he

/-- A fault of a patch goes back to a malformed moment. -/
theorem Halts.malformed {μ : Moment} {f : Failure} (h : μ.Halts p (.failed f))
    (hf : f.cause.trouble = .malformed) : ∃ ν, Reaches p μ ν ∧ ν.Malformed p := by
  obtain ⟨ν, hν, hplain | ⟨-, hmalformed⟩ | hrefuses⟩ := h.originates
  · exact absurd hf (Cause.trouble_of_isPlain hplain)
  · exact ⟨ν, hν, hmalformed⟩
  · cases hrefuses with
    | call _ => cases hf
    | @selector l env ctx loc attributes selector body m e host hw hr =>
      cases e with
      | invalid text => exact ⟨_, hν, .selector hw hr⟩
      | _ => cases hf

/-- A halt takes everything with it. -/
theorem Reaches.halts {μ ν : Moment} {e : Halt} (h : Reaches p μ ν) (hν : ν.Halts p e) :
    μ.Halts p e := by
  induction h using Relation.ReflTransGen.head_induction_on with
  | refl => exact hν
  | head hnext _ ih => exact hnext.halts ih

/-- The operation that traps has no outcome. -/
theorem Traps.halts {μ : Moment} (h : μ.Traps p) : μ.Halts p .trapped := by
  obtain ⟨ha, hb⟩ := h
  have htrap : Value.binary .divide (.int Int64.minValue) (.int (-1)) = .error .trap :=
    Value.binary_eq_trap_iff.mpr ⟨rfl, rfl, rfl⟩
  refine HaltsOn.quiet (.behind ha (.behind hb ?_))
  rw [htrap]
  exact ⟨_, rfl⟩

/-- A moment halts with what it refuses to go on with. -/
theorem Refuses.halts {μ : Moment} {f : Failure} (h : μ.Refuses p f) : μ.Halts p (.failed f) := by
  cases h with
  | call hd => exact HaltsOn.quiet ⟨_, if_pos hd⟩
  | @selector l env ctx loc attributes selector body m e host hw hr =>
    have hrun := select_wanted ctx loc selector (visitBody p (enterWithin p l) env body) hw m
    rw [hr] at hrun
    exact HaltsOn.quiet (HaltsOn.bind_iff.mpr (.inl ⟨_, hrun⟩))

/-- What is neither plain nor a fault goes back to a moment that refuses to go on. -/
theorem halts_iff_refuses {μ : Moment} {f : Failure} (hplain : f.cause.isPlain = false)
    (hfault : f.cause.trouble ≠ .malformed) :
    μ.Halts p (.failed f) ↔ ∃ ν, Reaches p μ ν ∧ ν.Refuses p f := by
  constructor
  · intro h
    obtain ⟨ν, hν, hf | ⟨hf, -⟩ | hrefuses⟩ := h.originates
    · rw [hplain] at hf
      cases hf
    · exact absurd hf hfault
    · exact ⟨ν, hν, hrefuses⟩
  · rintro ⟨ν, hν, hrefuses⟩
    exact hν.halts hrefuses.halts

/-- What could not be read has no outcome either. -/
theorem Malformed.halts {μ : Moment} (h : μ.Malformed p) :
    ∃ f : Failure, f.cause.trouble = .malformed ∧ μ.Halts p (.failed f) := by
  cases h with
  | @expr l env ctx loc fault m =>
    exact ⟨⟨loc, .fault fault⟩, rfl, HaltsOn.quiet ⟨_, rfl⟩⟩
  | @statement l env ctx loc fault m =>
    exact ⟨⟨loc, .fault fault⟩, rfl, HaltsOn.quiet ⟨_, rfl⟩⟩
  | @indexer l env ctx loc iloc key fault e m =>
    exact ⟨⟨loc, .fault fault⟩, rfl, HaltsOn.quiet ⟨_, rfl⟩⟩
  | @nameless l env ctx loc params body m =>
    exact ⟨⟨loc, .namelessFunction⟩, rfl, HaltsOn.quiet ⟨_, rfl⟩⟩
  | selector hw hr => exact ⟨_, rfl, Refuses.halts (.selector hw hr)⟩

/-- Levels do not run out in an execution: calls fail at their limit before that. -/
theorem not_halts_exhausted (patch : Patch) (h : Host) :
    ¬ (start p patch h).Halts p .exhausted := by
  intro hhalts
  rcases hhalts.origin with ⟨f, hf⟩ | ⟨μ, hμ, ⟨ht, _⟩ | ⟨_, hzero⟩⟩
  · cases hf
  · cases ht
  · have hdepth := hμ.nested.depth
    have hlevels := hμ.nested.levels
    omega

/-- An execution halts if its beginning does. -/
theorem execute_eq_error_iff {patch : Patch} {h : Host} {e : Halt} :
    (patch.execute p h).1 = .error e ↔ (start p patch h).Halts p e := by
  simp only [Halts, start, Part.run, HaltsOn.silently_iff, Patch.execute, Machine.start]
  rw [HaltsOn]
  generalize runBlock p _ _ _ patch.statements _ = r
  cases r with
  | ok flow m =>
    constructor
    · intro heq
      cases heq
    · rintro ⟨m', heq⟩
      cases heq
  | error e' m =>
    constructor
    · intro heq
      cases heq
      exact ⟨m, rfl⟩
    · rintro ⟨m', heq⟩
      cases heq
      rfl

/-- **Faults of a patch.** An execution fails for a fault of a patch exactly if it comes to a
malformed moment. -/
theorem execute_malformed_iff {patch : Patch} {h : Host} :
    (∃ f : Failure, (patch.execute p h).1 = .error (.failed f) ∧ f.cause.trouble = .malformed) ↔
      ∃ μ, Reaches p (start p patch h) μ ∧ μ.Malformed p := by
  constructor
  · rintro ⟨f, hf, htrouble⟩
    exact (execute_eq_error_iff.mp hf).malformed htrouble
  · rintro ⟨μ, hμ, hmalformed⟩
    obtain ⟨f, htrouble, hhalts⟩ := hmalformed.halts
    exact ⟨f, execute_eq_error_iff.mpr (hμ.halts hhalts), htrouble⟩

end Moment

/-! ## Executions end -/

/-- **Executions end.** Every execution of a patch has finitely many moments, and calls never go
on for ever. It ends with a report or with a failure, exactly unless it comes to the quotient of
the least whole number by -1, which traps. -/
theorem Patch.execute_ends (p : Provision) (patch : Patch) (h : Host) :
    {μ | Moment.Reaches p (.start p patch h) μ}.Finite ∧
    (WellFounded fun ν μ => Moment.Next p μ ν) ∧
    ((∃ report, (patch.execute p h).1 = .ok report) ∨
      (∃ failure, (patch.execute p h).1 = .error (.failed failure)) ∨
      (patch.execute p h).1 = .error .trapped) ∧
    ((patch.execute p h).1 = .error .trapped ↔
      ∃ μ, Moment.Reaches p (.start p patch h) μ ∧ μ.Traps p) := by
  refine ⟨Moment.finite_reaches p _, Moment.next_wellFounded p, ?result, ?trapped⟩
  case result =>
    cases hresult : (patch.execute p h).1 with
    | ok report => exact .inl ⟨report, rfl⟩
    | error e =>
      cases e with
      | failed failure => exact .inr (.inl ⟨failure, rfl⟩)
      | trapped => exact .inr (.inr rfl)
      | exhausted =>
        exact absurd (Moment.execute_eq_error_iff.mp hresult) (Moment.not_halts_exhausted patch h)
  case trapped =>
    rw [Moment.execute_eq_error_iff]
    constructor
    · intro hhalts
      rcases hhalts.origin with ⟨f, hf⟩ | ⟨μ, hμ, ⟨_, htraps⟩ | ⟨he, _⟩⟩
      · cases hf
      · exact ⟨μ, hμ, htraps⟩
      · cases he
    · rintro ⟨μ, hμ, htraps⟩
      exact hμ.halts htraps.halts

/-- A patch that declares `$x` as the quotient of the least whole number by -1. -/
def Draft.leastQuotient : Draft :=
  ⟨.origin, [.declare .origin "$x" (.binary .origin .divide
    (.binary .origin .subtract
      (.unary .origin .negate (.number .origin "9223372036854775807")) (.number .origin "1"))
    (.unary .origin .negate (.number .origin "1")))]⟩

/-- Its execution ends neither with a report nor with a failure. -/
theorem Patch.execute_leastQuotient :
    let result := ((Patch.ofDraft .leastQuotient).execute ⟨.withActiveMods [], .standard⟩
      (.ofDescription [] (.mk "doc" none [] .null [] false))).1
    result = .error .trapped ∧ (∀ report, result ≠ .ok report) ∧
      ∀ failure, result ≠ .error (.failed failure) := by
  intro result
  have htrapped : result = .error .trapped := by
    decide +kernel
  refine ⟨htrapped, fun report h => ?_, fun failure h => ?_⟩
  · cases htrapped.symm.trans h
  · cases htrapped.symm.trans h

end Graft
