import Mathlib.Data.Prod.Basic
import Graft.Proofs.Run.Mirroring
import Graft.Proofs.Selector.Depth

/-!
Runs under higher limits.

Limits decide between a failure and going on, and never what is computed: loops, calls and
rulesets consult them before they go on, and otherwise do the same. So the runs of a patch
under two settings, of which the second only has higher limits, open the same frames and
mirror each other step by step, until the first one fails at a limit. A patch that succeeds
has not done that, so it succeeds under the higher limits as well, with the same report and
on the same tree.
-/

set_option autoImplicit false

namespace Graft

/-- No limit is above the other's. -/
structure Limits.AtMost (limits others : Limits) : Prop where
  loops : limits.maxLoopIterations ≤ others.maxLoopIterations
  calls : limits.maxCallDepth ≤ others.maxCallDepth
  rulesets : limits.maxRulesetDepth ≤ others.maxRulesetDepth

/-- A halt that a limit has led to: of the loops, the calls or the rulesets. -/
def Halt.Limited : Halt → Prop
  | .failed f => f.cause.trouble = .limit ∨ ∃ e, f.cause = .selector e ∧ e.IsDepth
  | _ => False

section

variable (r : Registry) (s : Settings) {limits : Limits}

/-- Selectors yield the same under higher limits, unless a ruleset expands too deeply. -/
theorem Selector.resolve_of_atMost (hle : s.limits.AtMost limits) (selector : Selector)
    (scope : ElementId) (h : Host) :
    selector.resolve ⟨r, s⟩ scope h = selector.resolve ⟨r, { s with limits }⟩ scope h ∨
      ∃ e host, selector.resolve ⟨r, s⟩ scope h = (.error e, host) ∧
        Halt.Limited (.failed ⟨selector.loc, .selector e⟩) :=
  (select_of_le r.rulesets hle.rulesets selector scope h).imp_right
    fun ⟨e, host, herror, he⟩ => ⟨e, host, herror, .inr ⟨e, rfl, he⟩⟩

/-- Higher limits are all that differs. -/
theorem Provision.akin_of_atMost (hle : s.limits.AtMost limits) :
    Provision.Akin ⟨r, s⟩ ⟨r, { s with limits }⟩ Halt.Limited where
  registry := rfl
  stage := rfl
  fields := rfl
  loops := hle.loops
  limits := .inr fun _ => .inl
  resolve := Selector.resolve_of_atMost r s hle

/-- A run on the left, and the run under higher limits on the right. -/
def Mirror.raised (hle : s.limits.AtMost limits) : Mirror :=
  .twins (Provision.akin_of_atMost r s hle)

/-- **Higher limits.** The execution of a patch under higher limits is the same, with the same
result and the same tree, unless the patch has failed at one of the lower limits. -/
theorem Patch.execute_of_atMost (hle : s.limits.AtMost limits) (patch : Patch) (h : Host) :
    (∃ e, (patch.execute ⟨r, s⟩ h).1 = .error e ∧ e.Limited) ∨
      patch.execute ⟨r, { s with limits }⟩ h = patch.execute ⟨r, s⟩ h := by
  have hcalls : s.limits.maxCallDepth ≤ limits.maxCallDepth := hle.calls
  have henter : Enter.Mirrors (.raised r s hle) 0 0
      (Run.enterWithin ⟨r, s⟩ (s.limits.maxCallDepth + 1))
      (Run.enterWithin ⟨r, { s with limits }⟩ (limits.maxCallDepth + 1)) :=
    Run.enterWithin_mirrors (.raised r s hle) _ _ (Nat.zero_le _)
      (show s.limits.maxCallDepth < 0 + (s.limits.maxCallDepth + 1) by omega)
      (show limits.maxCallDepth < 0 + (limits.maxCallDepth + 1) by omega)
      (show 0 + s.limits.maxCallDepth ≤ 0 + limits.maxCallDepth by omega) (.inl rfl)
  have hstart : (Mirror.raised r s hle).Machines 0 0 (Machine.start h).2 (Machine.start h).2 :=
    { left := ⟨rfl, ⟨Nat.zero_le _, fun hname => by cases hname⟩⟩
      right := rfl
      host := rfl
      report := rfl
      functions := rfl
      mixins := rfl
      frames := rfl }
  -- Both runs begin with the same machine, so they end alike.
  rw [execute_eq_outcome, execute_eq_outcome]
  exact ((Mirrors.runBlock henter patch.statements rfl _).ends hstart trivial).outcome

/-- **Higher limits do not change a success.** A patch that succeeds under some settings succeeds
under all settings that differ from them in higher limits only, with the same report and the
same tree. -/
theorem Patch.execute_ok_of_atMost (hle : s.limits.AtMost limits) (patch : Patch) {h h' : Host}
    {report : Report} (hok : patch.execute ⟨r, s⟩ h = (.ok report, h')) :
    patch.execute ⟨r, { s with limits }⟩ h = (.ok report, h') := by
  rcases execute_of_atMost r s hle patch h with ⟨e, herror, _⟩ | hsame
  · rw [hok] at herror
    cases herror
  · rw [hsame, hok]

end

/-- A loop of two rounds with a call in each, below what a ruleset matches, has just enough under
the limits of two rounds, one call and one ruleset. It ends in the same way under the standard
limits. -/
theorem Patch.execute_ok_of_atMost_tight :
    let r : Registry := { Registry.withActiveMods [] with
      rulesets := [("leaf", .ofType .origin "a")] }
    let tight : Settings := { Settings.standard with limits := ⟨2, 1, 1⟩ }
    let twice : Draft.TopStatement := .function .origin "twice" [.mk .origin "$n" none]
      [.ret .origin (some (.binary .origin .add (.variable .origin "$n") (.variable .origin "$n")))]
    let call : Draft.Expr := .call .origin "twice" [.mk .origin none (.variable .origin "$i")]
    let loop : Draft.BlockStatement := .forRange .origin "$i" (.number .origin "1")
      (.number .origin "3") .exclusive [.field .origin "f" none call]
    let patch := Patch.ofDraft ⟨.origin, [twice,
      .selection .origin [] (.ruleset .origin ":leaf") [loop]]⟩
    let h := Host.ofDescription [] (.mk "doc" none [] .null [.mk "a" none [] .null [] false] false)
    ∃ h', patch.execute ⟨r, tight⟩ h = (.ok ⟨[], 1, 0, [1], 2⟩, h') ∧
      patch.execute ⟨r, { tight with limits := .standard }⟩ h = (.ok ⟨[], 1, 0, [1], 2⟩, h') := by
  intro r tight twice call loop patch h
  have hle : tight.limits.AtMost .standard := ⟨by decide, by decide, by decide⟩
  have hreport : (patch.execute ⟨r, tight⟩ h).1 = .ok ⟨[], 1, 0, [1], 2⟩ := by
    decide +kernel
  have hok := Prod.fst_eq_iff.mp hreport
  exact ⟨_, hok, execute_ok_of_atMost r tight hle patch hok⟩

end Graft
