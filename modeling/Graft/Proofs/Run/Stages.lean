import Graft.Proofs.Run.Comparison
import Graft.Proofs.Run.Confinement
import Graft.Proofs.Run.Flow

/-!
Stages, as a document defines them and as a run records them.

A stage is recorded where its definition is run. Definitions stand at the top of a document or in
the branches of a conditional there, and in libraries; nothing that a selection, a mixin, a
function or an expression runs is one. And no statement at the top of a document returns, so a run
that ends well comes to all of them, one after the other.

So the stages that a document defines at its top are recorded in their order, with whatever its
conditionals and imports record in between. Without these, nothing else is recorded.
-/

set_option autoImplicit false

namespace Graft

/-! ## Statements and the stages they record -/

/-- The stage that a statement defines, with its priority. -/
def Statement.stage? : Statement → Option (String × UInt64)
  | .stage _ name priority => some (name, priority)
  | _ => none

theorem Statement.stage?_eq_some {s : Statement} {pair : String × UInt64}
    (h : s.stage? = some pair) : ∃ loc, s = .stage loc pair.1 pair.2 := by
  cases s with
  | stage loc name priority =>
    cases h
    exact ⟨loc, rfl⟩
  | _ => cases h

/-- The kinds of statements that record a stage, or run a library, which may. -/
def Statement.recordsStages : Statement → Bool
  | .stage _ _ _ => true
  | .importLibrary _ _ => true
  | _ => false

/-- The kind of statement that runs one of several branches. -/
def Statement.isConditional : Statement → Bool
  | .conditional _ _ => true
  | _ => false

theorem Patch.stages_eq (patch : Patch) :
    patch.stages = patch.statements.filterMap Statement.stage? :=
  rfl

/-- A statement that records no stages and runs no library. -/
abbrev Statement.Unstaged (s : Statement) : Prop :=
  s.recordsStages = false

theorem Statement.unstaged_of_isFunctionLevel {s : Statement} (h : s.isFunctionLevel = true) :
    s.Unstaged := by
  cases s with
  | stage | importLibrary => cases h
  | _ => rfl

theorem Draft.BlockStatement.unstaged_read (s : Draft.BlockStatement) : s.read.Unstaged := by
  cases s <;> rfl

/-- A statement at the top of a document that is neither a conditional nor an import, and defines no
stage, holds nothing that records one. -/
theorem Draft.TopStatement.every_unstaged_read (s : Draft.TopStatement)
    (hstage : s.read.stage? = none) (hconditional : s.read.isConditional = false)
    (himport : s.read.isImport = false) : s.read.Every Statement.Unstaged := by
  have hf : ∀ s : Statement, s.isFunctionLevel = true → s.Unstaged :=
    fun _ h => Statement.unstaged_of_isFunctionLevel h
  have hb := Draft.BlockStatement.unstaged_read
  cases s with
  | importLibrary loc text => cases himport
  | declare loc name e => exact ⟨rfl, e.every_read hf⟩
  | stage loc name priority =>
    simp only [TopStatement.read] at hstage ⊢
    cases hw : wordOf? priority with
    | none => exact rfl
    | some n =>
      rw [hw] at hstage
      cases hstage
  | selection loc attributes selector body => exact ⟨rfl, everyIn_readBlock hf hb body⟩
  | function loc name params body =>
    simp only [TopStatement.read]
    split
    · exact ⟨rfl, everyIn_readParams hf params, everyIn_readFunctionBody hf body⟩
    · exact rfl
  | mixin loc name params body =>
    simp only [TopStatement.read]
    split
    · exact ⟨rfl, everyIn_readParams hf params, everyIn_readBlock hf hb body⟩
    · exact rfl
  | conditional loc condition body elseIfs otherwise => cases hconditional

/-! ## Changes of the record -/

/-- Stages are recorded behind those that were recorded before. -/
theorem Evolves.stages_prefix {t : Terms} {m m' : Machine} (h : Evolves t m m') :
    m.report.stages <+: m'.report.stages := by
  refine h.invariant (J := fun n => m.report.stages <+: n.report.stages) ?_ (fun _ hn => hn)
    (List.prefix_refl _)
  intro n n' hchange hn
  cases hchange with
  | stage _ => exact hn.trans (List.prefix_append _ _)
  | opened | bound | function | mixin | skipped | ran | failed | yielded | edited => exact hn

/-- Where no stage is defined, none is recorded. -/
theorem Evolves.stages_eq {t : Terms} (ht : ∀ s, t.statements s → s.Unstaged) {m m' : Machine}
    (h : Evolves t m m') : m'.report.stages = m.report.stages := by
  refine h.invariant (J := fun n => n.report.stages = m.report.stages) ?_ (fun _ hn => hn) rfl
  intro n n' hchange hn
  cases hchange with
  | stage hs => cases ht _ hs
  | opened | bound | function | mixin | skipped | ran | failed | yielded | edited => exact hn

/-! ## The terms of a document -/

namespace Registry.FromDrafts

variable {r : Registry}

theorem unstaged (hr : r.FromDrafts) : r.Every Statement.Unstaged where
  functions hlookup := by
    obtain ⟨params, body, rfl⟩ := hr.functions hlookup
    exact Draft.routine_every_readFunction (fun _ h => Statement.unstaged_of_isFunctionLevel h)
      params body
  mixins _ _ _ hlookup := by
    obtain ⟨params, body, rfl⟩ := hr.mixins hlookup
    exact Draft.routine_every_readMixin (fun _ h => Statement.unstaged_of_isFunctionLevel h)
      Draft.BlockStatement.unstaged_read params body
  -- Nothing that records no stages imports a library.
  libraries := fun ⟨_, _, h⟩ => by cases h

theorem definesUnstaged (hr : r.FromDrafts) :
    r.Every (Statement.DefinesEvery Statement.Unstaged) :=
  hr.every Statement.definesEvery_of_isFunctionLevel
    (fun s => s.definesEvery_read)
    fun s => s.definesEvery_read (fun _ h => Statement.unstaged_of_isFunctionLevel h)
      Draft.BlockStatement.unstaged_read

end Registry.FromDrafts

section

variable {p : Provision} {P : Statement → Prop} {X : ElementId → Prop}

/-- Where all that is defined consists of statements that `P` holds of, so do the routines that
have been defined by then. -/
theorem Machine.Sound.defined {hP : p.registry.Every P}
    {hdefines : p.registry.Every (Statement.DefinesEvery P)} {m m' : Machine}
    (h : Evolves (.whole p (Statement.DefinesEvery P) hdefines) m m')
    (hm : m.Sound (.whole p P hP) X) : m'.Sound (.whole p P hP) X := by
  refine h.invariant (J := fun m => m.Sound (.whole p P hP) X) ?_ (fun n hn => hn.atDepth n) hm
  intro n n' hchange hn
  obtain ⟨functions, mixins, base, matched⟩ := hn
  cases hchange with
  | function hs => exact ⟨Table.of_get?_insert hs.1 functions, mixins, base, matched⟩
  | mixin hs =>
    exact ⟨functions, fun hi => Table.of_get?_insert hs.1 (mixins hi), base, matched⟩
  | yielded _ _ _ =>
    exact ⟨functions, mixins, base, fun id hid => List.mem_append_right _ (matched id hid)⟩
  | opened | bound | stage | skipped | ran | failed | edited =>
    exact ⟨functions, mixins, Nat.zero_le _, matched⟩

end

/-! ## Runs of a document -/

/-- A machine that statements of a document may be run on: the routines that were defined so far
hold nothing that records stages. -/
structure Machine.Unstaged (p : Provision) (hp : p.registry.FromDrafts) (m : Machine) : Prop where
  document : m.Sound (.whole p _ hp.definesUnstaged) fun _ => False
  routines : m.Sound (.whole p _ hp.unstaged) fun _ => False

/-- A statement at the top of a document changes what its terms admit, where `P` holds of all
statements in it and in the routines that were defined before. -/
theorem Machine.Sound.evolves_runStatement {p : Provision} {P : Statement → Prop}
    {hP : p.registry.Every P} {m m' : Machine} (hm : m.Sound (.whole p P hP) fun _ => False)
    {levels : Nat} {env : Environment} {s : Statement} (hs : s.Every P) {flow : Flow}
    (hrun : Run.runStatement p (Run.enterWithin p levels) env
      ⟨Host.root, false, [Host.root]⟩ s m = .ok flow m') : Evolves (.whole p P hP) m m' := by
  have hmakes : Makes (.whole p P hP) (fun _ => False)
      (Run.runStatement p (Run.enterWithin p levels) env ⟨Host.root, false, [Host.root]⟩ s)
      fun _ => True :=
    Makes.runStatement (Run.enterWithin_keeps _ levels) s hs (fun _ => trivial)
      (Context.admitted_root _)
  exact (hmakes.behind hm hrun).1

namespace Run

variable {p : Provision} {hp : p.registry.FromDrafts} {levels : Nat} {env : Environment}
  {m m' : Machine} {flow : Flow}

/-- A statement at the top of a document does not return, and records behind what was recorded
before the stage that it defines, if it defines one. A conditional and an import may record others
around it. -/
theorem runStatement_stages (hm : m.Unstaged p hp) (s : Draft.TopStatement)
    (hrun : runStatement p (enterWithin p levels) env ⟨Host.root, false, [Host.root]⟩ s.read m =
      .ok flow m') :
    flow = .next ∧ m'.Unstaged p hp ∧
      ∃ more, m'.report.stages = m.report.stages ++ more ∧
        s.read.stage?.toList.Sublist more ∧
        (s.read.isConditional = false → s.read.isImport = false →
          more = s.read.stage?.toList) := by
  have hreturn : s.read.mayReturn = false :=
    Statement.mayReturn_of_placed (l := .top) (by decide) _ s.placed_read
  have hnext : flow = .next := GoesOn.runStatement env _ s.read hreturn m flow m' hrun
  have hdefines : s.read.Every (Statement.DefinesEvery Statement.Unstaged) :=
    s.every_read Statement.definesEvery_of_isFunctionLevel (fun s => s.definesEvery_read)
      fun s => s.definesEvery_read (fun _ h => Statement.unstaged_of_isFunctionLevel h)
        Draft.BlockStatement.unstaged_read
  have hev := hm.document.evolves_runStatement hdefines hrun
  refine ⟨hnext, ⟨hm.document.evolves hev, hm.routines.defined hev⟩, ?_⟩
  cases hstage : s.read.stage? with
  | some pair =>
    -- The definition of a stage does nothing but to record it.
    obtain ⟨loc, hs⟩ := Statement.stage?_eq_some hstage
    rw [hs] at hrun
    cases hrun
    exact ⟨[pair], rfl, .refl _, fun _ _ => rfl⟩
  | none =>
    obtain ⟨more, hmore⟩ := hev.stages_prefix
    refine ⟨more, hmore.symm, List.nil_sublist more, fun hconditional himport => ?_⟩
    have hunstaged := s.every_unstaged_read hstage hconditional himport
    have hquiet := hm.routines.evolves_runStatement hunstaged hrun
    rw [hquiet.stages_eq fun _ h => h] at hmore
    exact List.append_right_eq_self.mp hmore

/-- Statements of a document are all run, so each of them records what it defines. By induction on
the document: what the first statement records stands before what the others record. -/
theorem runBlock_stages : ∀ (body : List Draft.TopStatement) {m m' : Machine} {flow : Flow},
    m.Unstaged p hp →
    runBlock p (enterWithin p levels) env ⟨Host.root, false, [Host.root]⟩ (Draft.readTop body) m =
      .ok flow m' →
    ∃ more, m'.report.stages = m.report.stages ++ more ∧
      ((Draft.readTop body).filterMap Statement.stage?).Sublist more ∧
      ((∀ s ∈ Draft.readTop body, s.isConditional = false ∧ s.isImport = false) →
        more = (Draft.readTop body).filterMap Statement.stage?)
  | [], m, m', flow, _, hrun => by
    cases hrun
    exact ⟨[], (List.append_nil _).symm, .slnil, fun _ => rfl⟩
  | s :: rest, m, m', flow, hm, hrun => by
    rw [Draft.readTop, runBlock, bind_eq_ok_iff] at hrun
    obtain ⟨first, m₁, hs, hrest⟩ := hrun
    obtain ⟨rfl, hm₁, more₁, hmore₁, hsub₁, heq₁⟩ := runStatement_stages hm s hs
    obtain ⟨more₂, hmore₂, hsub₂, heq₂⟩ := runBlock_stages rest hm₁ hrest
    have hcons : (s.read :: Draft.readTop rest).filterMap Statement.stage? =
        s.read.stage?.toList ++ (Draft.readTop rest).filterMap Statement.stage? := by
      rw [List.filterMap_cons]
      cases s.read.stage? <;> rfl
    rw [Draft.readTop, hcons]
    refine ⟨more₁ ++ more₂, ?_, hsub₁.append hsub₂, fun hplain => ?_⟩
    · rw [hmore₂, hmore₁, List.append_assoc]
    · obtain ⟨⟨hconditional, himport⟩, hplain⟩ := List.forall_mem_cons.mp hplain
      rw [heq₁ hconditional himport, heq₂ hplain]

end Run

namespace Patch

variable {p : Provision}

/-- **Stages as defined and as recorded.** Where what is registered was read from drafts, an
execution of what was read from a draft that ends well has recorded all stages that the document
defines at its top, in their order; and it has recorded no others if there is neither a conditional
nor an import at the top. -/
theorem stages_of_execute (hp : p.registry.FromDrafts) (d : Draft) {h h' : Host} {report : Report}
    (he : (ofDraft d).execute p h = (.ok report, h')) :
    (ofDraft d).stages.Sublist report.stages ∧
      ((∀ s ∈ (ofDraft d).statements, s.isConditional = false ∧ s.isImport = false) →
        report.stages = (ofDraft d).stages) := by
  have hstart : (Machine.start h).2.Unstaged p hp :=
    ⟨Machine.sound_start _ h, Machine.sound_start _ h⟩
  rw [execute_eq_outcome] at he
  cases hrun : Run.runBlock p (Run.enterWithin p (p.settings.limits.maxCallDepth + 1))
      (Machine.start h).1 ⟨Host.root, false, [Host.root]⟩ (ofDraft d).statements
      (Machine.start h).2 with
  | error halt m =>
    rw [hrun] at he
    cases he
  | ok flow m =>
    rw [hrun] at he
    cases he
    obtain ⟨more, hmore, hsub, heq⟩ := Run.runBlock_stages d.statements hstart hrun
    have hblank : (Machine.start h).2.report.stages = [] := rfl
    rw [hblank, List.nil_append] at hmore
    rw [stages_eq, hmore]
    exact ⟨hsub, heq⟩

end Patch

/-- A document with a stage before and a stage behind other statements. -/
def Draft.framing (body : List Draft.TopStatement) : Draft :=
  ⟨.origin, [.stage .origin "early" "1"] ++ body ++ [.stage .origin "late" "2"]⟩

/-- With a selection between its two stages, a document records these. With a conditional in that
place, it records the stage of the branch between them. -/
theorem Patch.stages_of_execute_framing :
    let p : Provision := ⟨.keeping, .standard⟩
    let plain : Draft := .framing [.selection .origin [] (.wildcard .origin) []]
    let branching : Draft := .framing [.conditional .origin (.boolean .origin true)
      [.stage .origin "middle" "5"] [] none]
    let h := Host.empty []
    (∃ report h', (ofDraft plain).execute p h = (.ok report, h') ∧
      (ofDraft plain).stages = [("early", 1), ("late", 2)] ∧
      report.stages = (ofDraft plain).stages) ∧
    ∃ report h', (ofDraft branching).execute p h = (.ok report, h') ∧
      report.stages = [("early", 1), ("middle", 5), ("late", 2)] ∧
      (ofDraft branching).stages.Sublist report.stages := by
  intro p plain branching h
  have hplain : (ofDraft plain).execute p h =
      (.ok ⟨[("early", 1), ("late", 2)], 1, 0, [], 0⟩, h) := by rfl
  have hbranching : (ofDraft branching).execute p h =
      (.ok ⟨[("early", 1), ("middle", 5), ("late", 2)], 0, 0, [], 0⟩, h) := by rfl
  have hflat : ∀ s ∈ (ofDraft plain).statements, s.isConditional = false ∧ s.isImport = false := by
    refine List.forall_mem_cons.mpr ⟨⟨rfl, rfl⟩, ?_⟩
    refine List.forall_mem_cons.mpr ⟨⟨rfl, rfl⟩, ?_⟩
    exact List.forall_mem_singleton.mpr ⟨rfl, rfl⟩
  refine ⟨⟨_, _, hplain, rfl, ?_⟩, _, _, hbranching, rfl, ?_⟩
  · exact (stages_of_execute Registry.fromDrafts_keeping plain hplain).2 hflat
  · exact (stages_of_execute Registry.fromDrafts_keeping branching hbranching).1

end Graft
