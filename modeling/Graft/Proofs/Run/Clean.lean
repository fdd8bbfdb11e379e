import Mathlib.Data.List.Basic
import Graft.Job
import Graft.Proofs.Patch.Clean
import Graft.Proofs.Run.Ending
import Graft.Proofs.Run.Flow
import Graft.Proofs.Run.Purity

/-!
Runs of patches without errors in them.

A malformed moment is one at which an error of the patch is run, an invalid selector is resolved,
or a function without a name is defined. What a clean part runs is clean again: its own pieces,
the routines of a clean registry, those that clean statements have defined before, and the
closures among its arguments. So the execution of a clean patch never comes to a malformed
moment, and it never fails for a fault that a review would have reported. In particular no job
does, since a job runs nothing that its review has something to say about.
-/

set_option autoImplicit false

namespace Graft

open Run

/-! ## Clean machines and parts -/

/-- There are no errors in the routines that a machine knows. -/
structure Machine.Clean (m : Machine) : Prop where
  functions : ∀ {name : String} {f : Routine}, Table.get? m.functions name = some f → f.Clean
  mixins : ∀ {name : String} {f : Routine}, Table.get? m.mixins name = some f → f.Clean

theorem Machine.clean_start (h : Host) : (Machine.start h).2.Clean where
  functions hf := nomatch hf
  mixins hf := nomatch hf

/-- What a clean statement defines is clean. -/
theorem Machine.Clean.change {t : Terms} (ht : t.statements = Statement.Clean)
    {m m' : Machine} (h : Change t m m') (hm : m.Clean) : m'.Clean := by
  cases h with
  | function hs =>
    rw [ht] at hs
    have hclean := hs.1
    exact ⟨Table.of_get?_insert ⟨hclean.2.1, hclean.2.2⟩ hm.functions, hm.mixins⟩
  | mixin hs =>
    rw [ht] at hs
    have hclean := hs.1
    exact ⟨hm.functions, Table.of_get?_insert ⟨hclean.1, hclean.2⟩ hm.mixins⟩
  | opened | bound | stage | skipped | ran | failed | yielded | edited =>
    exact ⟨hm.functions, hm.mixins⟩

def Closure.Clean (c : Closure) : Prop :=
  (Routine.mk c.params c.body).Clean

/-- There are no errors in what a part runs by itself. -/
def Part.Clean : Part → Prop
  | expr _ _ e => e.Clean
  | exprs _ _ es => Expr.CleanIn es
  | entries _ _ _ es => Entry.CleanIn es
  | args _ _ as => Arg.CleanIn as
  | call _ _ _ _ _ given => Argument.Every Closure.Clean given
  | items _ _ _ c _ => c.Clean
  | closure _ _ c _ => c.Clean
  | routine _ r _ _ _ _ => r.Clean
  | slots _ _ _ _ ss => Param.CleanIn (ss.map Prod.fst)
  | statement _ _ s => s.Clean
  | block _ _ body => Statement.CleanIn body
  | branches _ _ bs => bs.Clean
  | range _ _ _ _ body _ _ _ => Statement.CleanIn body
  | each _ _ _ _ _ body _ _ => Statement.CleanIn body
  | again _ _ _ c body _ => c.Clean ∧ Statement.CleanIn body
  | visits _ _ _ body _ => Statement.CleanIn body

/-- Closures are handed over as they are written. -/
theorem Run.Answers.evaluateArgs (p : Provision) (enter : Enter) (env : Environment)
    (ctx : Context) (args : List Arg) (h : Arg.CleanIn args) :
    (Run.evaluateArgs p enter env ctx args).Answers (Argument.Every Closure.Clean) := by
  induction args with
  | nil => exact .pure Argument.Every.nil
  | cons arg rest ih =>
    obtain ⟨loc, name, e⟩ := arg
    have hrest := ih h.2
    cases e with
    | closure _ params body =>
      exact hrest.bind fun _ hargs => .pure (hargs.closure ⟨h.1.1, h.1.2⟩ loc name)
    | _ => exact .behind fun v => hrest.bind fun _ hargs => .pure (hargs.value loc name v)

namespace Moment

variable {p : Provision} {μ ν : Moment}

/-! ## Clean moments -/

/-- **One call.** What a clean part calls is clean. -/
theorem Next.clean (hp : p.registry.Clean) (h : Next p μ ν) (hm : μ.machine.Clean)
    (hμ : μ.part.Clean) : ν.part.Clean := by
  cases h with
  -- Calls: what a name means is found in the machine or in the registry.
  | call hx => exact Answers.evaluateArgs _ _ _ _ _ hμ _ _ _ hx
  | memberCall _ hy => exact Answers.evaluateArgs _ _ _ _ _ hμ.2 _ _ _ hy
  | routine hf _ =>
    rcases Option.or_eq_some_iff.mp hf with hown | ⟨_, hregistered⟩
    · exact hm.functions hown
    · exact hp.functions hregistered
  | mixin hf _ _ =>
    rcases Option.or_eq_some_iff.mp hf with hown | ⟨_, hregistered⟩
    · exact hm.mixins hown
    · exact hp.mixins hregistered
  | library hl => exact ⟨trivial, hp.libraries hl⟩
  | items _ hinputs _ hclosure _ =>
    exact Inputs.mem_closures_ofArguments hinputs hμ _ (Inputs.mem_of_onlyClosure hclosure)
  | slots _ hfill =>
    -- The slots are those of the parameters, whatever fills them.
    show Param.CleanIn _
    rw [Slots.params_of_fillAll hfill, Slots.params_blank]
    exact hμ.params
  | body _ _ => exact hμ.body
  | @otherSlots l callee frame ctx loc slot ss m m' _ =>
    obtain ⟨⟨ploc, name, default⟩, filled⟩ := slot
    exact hμ.2
  -- Everything else is a piece of what calls it.
  | operand | callArgs | listItems | objectEntries | firstItem | otherItems | closure | declared
  | conditional | returned | setTo | merged | mixinArgs | evaluated | otherwise | rangeBody
  | otherNumbers | eachBody | otherEach | again | againAgain | visit | otherVisits => exact hμ
  | left | target | receiver | condition | firstExpr | firstEntry | firstArg | default | rangeFirst
  | iterable | firstStatement | test | againTest => exact hμ.1
  | right | index | memberArgs | otherExprs | otherEntries | argsBehindValue | argsBehindClosure
  | each | written | selection | otherStatements | againBody => exact hμ.2
  | whenTrue | rangeLast | passed => exact hμ.2.1
  | whenFalse | range | otherBranches => exact hμ.2.2

/-- A clean part is not run at a malformed moment. -/
theorem not_malformed (hp : p.registry.Clean) (hμ : μ.part.Clean) : ¬ μ.Malformed p := by
  intro h
  cases h with
  | expr => exact hμ
  | statement => exact hμ
  | indexer => exact hμ.1
  | nameless => cases hμ.1
  | selector _ hr =>
    exact hμ.1.select (fun _ _ => hp.rulesets) _ _ _ _ (congrArg Prod.fst hr)

section

variable (hp : p.registry.Clean) {patch : Patch} (hpatch : Statement.CleanIn patch.statements)
  {h : Host}

include hp hpatch

/-- **A whole run.** In the execution of a clean patch, nothing is run that is not clean. -/
theorem Reaches.clean (hμ : Reaches p (start p patch h) μ) : μ.part.Clean := by
  have hregistry : p.registry.Every Statement.Clean :=
    { functions := fun hf => (hp.functions hf).every
      mixins := fun _ _ _ hf => (hp.mixins hf).every
      libraries := fun _ _ _ hl => Statement.everyIn_of_cleanIn _ (hp.libraries hl) }
  have hstatements := Statement.everyIn_of_cleanIn _ hpatch
  induction hμ with
  | refl => exact hpatch
  | tail hν hnext ih =>
    have hmachine := (Reaches.invariant (J := Machine.Clean) hregistry hstatements
      (fun hc hm => hm.change rfl hc) (fun _ hm => ⟨hm.functions, hm.mixins⟩)
      (Machine.clean_start h) hν).1
    exact hnext.clean hp hmachine ih

end

end Moment

/-! ## Clean runs -/

/-- The execution of a clean patch does not fail for a fault of the patch. -/
theorem Patch.trouble_of_execute_clean {p : Provision} (hp : p.registry.Clean) {patch : Patch}
    (hpatch : Statement.CleanIn patch.statements) {h : Host} {f : Failure}
    (hf : (patch.execute p h).1 = .error (.failed f)) : f.cause.trouble ≠ .malformed := by
  intro htrouble
  obtain ⟨μ, hμ, hmalformed⟩ := Moment.execute_malformed_iff.mp ⟨f, hf, htrouble⟩
  exact Moment.not_malformed hp (Moment.Reaches.clean hp hpatch hμ) hmalformed

namespace Review

/-- What a review says and what it marks the patch with go together. -/
theorem faulty_iff (d : Draft) :
    (ofDraft d).patch.faulty = true ↔ (ofDraft d).diagnostics ≠ [] := by
  show (!d.problems.isEmpty) = true ↔ d.problems.map _ ≠ []
  rw [Bool.not_eq_true', List.isEmpty_eq_false_iff, ne_eq, ne_eq, List.map_eq_nil_iff]

/-- Where a review has nothing to say, there are no errors in the patch. -/
theorem cleanIn_of_diagnostics {d : Draft} (h : (ofDraft d).diagnostics = []) :
    Statement.CleanIn (ofDraft d).patch.statements :=
  Draft.cleanIn_readTop d.statements (List.map_eq_nil_iff.mp h)

end Review

/-- A job that halts has run a patch that its review has nothing to say about, with nothing in
the registry but active mods. -/
theorem Job.execute_of_perform {job : Job} {e : Halt} (h : job.perform = .error (.halted e)) :
    ∃ (d : Draft) (host : Host), (Review.ofDraft d).diagnostics = [] ∧
      ((Patch.ofDraft d).execute ⟨.withActiveMods job.settings.activeMods, job.settings⟩ host).1 =
        .error e := by
  unfold Job.perform at h
  -- Whatever keeps the patch from being run is no halt.
  split at h
  case h_2 => cases h
  rename_i review hreview
  obtain ⟨d, _, rfl⟩ := Option.map_eq_some_iff.mp hreview
  dsimp only at h
  have hclean : (Review.ofDraft d).isClean = true := by
    by_contra hfaulty
    rw [if_neg hfaulty] at h
    cases h
  rw [if_pos hclean] at h
  split at h
  case h_2 => cases h
  rename_i text _
  split at h
  case h_2 => cases h
  rename_i tree _
  cases hkinds : Kinds.ofTypes tree.types with
  | error refused =>
    rw [hkinds] at h
    cases h
  | ok kinds =>
    rw [hkinds] at h
    refine ⟨d, .ofDescription kinds tree, List.isEmpty_iff.mp hclean, ?_⟩
    simp only [Except.mapError, bind, Except.bind] at h
    cases hresult : ((Patch.ofDraft d).execute
        ⟨.withActiveMods job.settings.activeMods, job.settings⟩
        (.ofDescription kinds tree)).1 with
    | ok report =>
      simp only [Review.ofDraft, hresult] at h
      cases h
    | error halt =>
      simp only [Review.ofDraft, hresult] at h
      cases h
      rfl

/-- **A clean review rules out faults of the patch.** A patch is marked as faulty exactly if its
review says something. If it says nothing, there are no errors in the patch at whatever depth,
and no execution of it fails for a fault of a patch, whatever the tree and the settings are, if
the registry was read from drafts without problems. No job at all fails so. -/
theorem Review.rules_out_malformed :
    (∀ d : Draft,
      ((ofDraft d).patch.faulty = true ↔ (ofDraft d).diagnostics ≠ []) ∧
      ((ofDraft d).diagnostics = [] →
        Statement.CleanIn (ofDraft d).patch.statements ∧
        ∀ p : Provision, p.registry.FromCleanDrafts → ∀ (h : Host) (f : Failure),
          ((ofDraft d).patch.execute p h).1 = .error (.failed f) →
          f.cause.trouble ≠ .malformed)) ∧
    ∀ (job : Job) (f : Failure), job.perform = .error (.halted (.failed f)) →
      f.cause.trouble ≠ .malformed := by
  refine ⟨fun d => ⟨faulty_iff d, fun hd => ?reviewed⟩, fun job f hf => ?job⟩
  case reviewed =>
    have hclean := cleanIn_of_diagnostics hd
    exact ⟨hclean, fun p hp h f hf => Patch.trouble_of_execute_clean hp.clean hclean hf⟩
  case job =>
    obtain ⟨d, host, hd, hhalted⟩ := Job.execute_of_perform hf
    have hregistry := (Registry.fromCleanDrafts_withActiveMods job.settings.activeMods).clean
    exact Patch.trouble_of_execute_clean hregistry (cleanIn_of_diagnostics hd) hhalted

theorem Registry.fromCleanDrafts_keeping : Registry.keeping.FromCleanDrafts where
  rulesets hs := nomatch hs
  functions {name f} hf := by
    simp only [Registry.function?, Registry.keeping, Table.get?] at hf
    split at hf
    · exact ⟨_, _, rfl, rfl, (Option.some.inj hf).symm⟩
    · cases hf
  mixins hf := nomatch hf
  libraries hl := nomatch hl

/-- The failure of a job, if its run fails. -/
def Job.failure? (job : Job) : Option Failure :=
  match job.perform with
  | .error (.halted (.failed f)) => some f
  | _ => none

theorem Job.perform_of_failure? {job : Job} {f : Failure} (h : job.failure? = some f) :
    job.perform = .error (.halted (.failed f)) := by
  unfold failure? at h
  split at h
  · rename_i hperform
    cases h
    exact hperform
  · cases h

/-- A document that calls `keep` with a variable that nothing declares, and a job that imports a
library that is not there, are clean, and both fail. -/
theorem Review.rules_out_malformed_failing :
    let p : Provision := ⟨.keeping, .standard⟩
    let d : Draft := ⟨.origin, [.declare .origin "$x"
      (.call .origin "keep" [.mk .origin none (.variable .origin "$missing")])]⟩
    let statement := "\x7b\"rule\":\"import\",\"library\":\"core\"\x7d"
    let job : Job := ⟨"\x7b\"statements\":[" ++ statement ++ "]\x7d",
      some "\x7b\"type\":\"doc\"\x7d", .standard⟩
    let f : Failure := ⟨.origin, .unboundVariable "missing"⟩
    let f' : Failure := ⟨.origin, .unknownLibrary "core"⟩
    ((ofDraft d).diagnostics = [] ∧
      ((ofDraft d).patch.execute p (.empty [])).1 = .error (.failed f) ∧
      f.cause.trouble ≠ .malformed) ∧
    (job.perform = .error (.halted (.failed f')) ∧ f'.cause.trouble ≠ .malformed) := by
  intro p d statement job f f'
  have hd : (ofDraft d).diagnostics = [] := rfl
  have hf : ((ofDraft d).patch.execute p (.empty [])).1 = .error (.failed f) := by
    decide +kernel
  have hjob : job.perform = .error (.halted (.failed f')) :=
    Job.perform_of_failure? (by decide +kernel)
  have hreviewed := (rules_out_malformed.1 d).2 hd
  exact ⟨⟨hd, hf, hreviewed.2 p Registry.fromCleanDrafts_keeping _ f hf⟩,
    hjob, rules_out_malformed.2 job f' hjob⟩

end Graft
