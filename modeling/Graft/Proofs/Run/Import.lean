import Graft.Proofs.Run.InPlace

/-!
Imports at the top of a document, against the statements of the library in their place.

An import runs the library one call deeper, in the global scope. At the top of a document
that is the scope of the import too, so both open the same frames and bind the same names,
and the two runs differ only in how deep their calls are nested. What is computed does not
depend on that, unless the import fails at a limit. And a library never returns, so the
statements behind it are run in both cases, from the same machine: whatever the library has
defined is there as if it were written in the document.
-/

set_option autoImplicit false

namespace Graft

/-- The patch with other statements in place of the one at a position. -/
def Patch.splice (patch : Patch) (i : Nat) (statements : List Statement) : Patch :=
  { patch with
    statements := patch.statements.take i ++ statements ++ patch.statements.drop (i + 1) }

namespace Run

variable {p : Provision} {ctx : Context}

/-! ## Statements in turn -/

/-- Statements behind others are run if these have not returned. -/
theorem runBlock_append (enter : Enter) (env : Environment) (ctx : Context)
    (before behind : List Statement) :
    runBlock p enter env ctx (before ++ behind) =
      runBlock p enter env ctx before >>= fun
        | .next => runBlock p enter env ctx behind
        | .returned v => pure (.returned v) := by
  induction before with
  | nil => rfl
  | cons s rest ih =>
    rw [List.cons_append, runBlock, runBlock, bind_assoc]
    congr 1
    funext flow
    cases flow with
    | next => exact ih
    | returned v => rfl

/-- Results that are the same for what goes on from them: the same answer of the same machine, or
the same halt with the same host and the same report. -/
inductive SameResult {α : Type} :
    EStateM.Result Halt Machine α → EStateM.Result Halt Machine α → Prop
  | ok (a : α) (m : Machine) : SameResult (.ok a m) (.ok a m)
  | error {e : Halt} {m₁ m₂ : Machine} : m₁.host = m₂.host → m₁.report = m₂.report →
    SameResult (.error e m₁) (.error e m₂)

namespace SameResult

variable {α β : Type}

theorem refl (r : EStateM.Result Halt Machine α) : SameResult r r := by
  cases r with
  | ok a m => exact .ok a m
  | error e m => exact .error rfl rfl

theorem bind {x₁ x₂ : Run α} {m₁ m₂ : Machine} (h : SameResult (x₁ m₁) (x₂ m₂))
    (f : α → Run β) : SameResult ((x₁ >>= f) m₁) ((x₂ >>= f) m₂) := by
  generalize hr₁ : x₁ m₁ = r₁ at h
  generalize hr₂ : x₂ m₂ = r₂ at h
  cases h with
  | ok a m =>
    rw [bind_ok hr₁, bind_ok hr₂]
    exact .refl _
  | error hhost hreport =>
    rw [bind_error hr₁, bind_error hr₂]
    exact .error hhost hreport

theorem eq_ok {r₁ r₂ : EStateM.Result Halt Machine α} (h : SameResult r₁ r₂) {a : α} {m : Machine}
    (hr : r₁ = .ok a m) : r₂ = .ok a m := by
  cases h with
  | ok => exact hr
  | error => cases hr

theorem outcome_eq {r₁ r₂ : EStateM.Result Halt Machine Flow} (h : SameResult r₁ r₂) :
    Patch.outcome r₁ = Patch.outcome r₂ := by
  cases h with
  | ok => rfl
  | error hhost _ => exact congrArg (Prod.mk _) hhost

end SameResult

/-! ## Imports as they run -/

section

variable {m : Machine} {name : String} {library : Patch}
  (hlookup : p.registry.library? name = some library)

include hlookup

theorem runStatement_importLibrary (enter : Enter) (env : Environment) (ctx : Context)
    (loc : Coordinate) :
    runStatement p enter env ctx (.importLibrary loc name) =
      enter name ⟨[], library.statements⟩ [] env.globalScope ctx loc >>= fun _ =>
        pure Flow.next := by
  rw [runStatement, hlookup]

/-- An import that the limit admits runs the statements of the library in the global scope, one
call deeper. -/
theorem runStatement_importLibrary_of_lt (levels : Nat) (env : Environment) (ctx : Context)
    (loc : Coordinate) (hdepth : m.callDepth < p.settings.limits.maxCallDepth) :
    runStatement p (enterWithin p (levels + 1)) env ctx (.importLibrary loc name) m =
      match runBlock p (enterWithin p levels) env.globalScope ctx library.statements m.deeper with
      | .ok _ m' => .ok .next m'.shallower
      | .error e m' => .error e m'.shallower := by
  have henter := enterWithin_plain (m := m) levels name library.statements env.globalScope ctx loc
    hdepth
  rw [runStatement_importLibrary hlookup]
  cases hr : runBlock p (enterWithin p levels) env.globalScope ctx library.statements m.deeper with
  | ok flow m' =>
    rw [hr] at henter
    rw [bind_ok henter]
    rfl
  | error e m' =>
    rw [hr] at henter
    rw [bind_error henter]

/-- An import that the limit does not admit halts at it. -/
theorem runStatement_importLibrary_of_le (levels : Nat) (env : Environment) (ctx : Context)
    (loc : Coordinate) (hdepth : p.settings.limits.maxCallDepth ≤ m.callDepth) :
    runStatement p (enterWithin p (levels + 1)) env ctx (.importLibrary loc name) m =
      .error (.failed ⟨loc, .callLimit p.settings.limits.maxCallDepth⟩) m := by
  have henter : enterWithin p (levels + 1) name ⟨[], library.statements⟩ [] env.globalScope ctx loc
      m = .error (.failed ⟨loc, .callLimit p.settings.limits.maxCallDepth⟩) m := if_pos hdepth
  rw [runStatement_importLibrary hlookup, bind_error henter]

end

end Run

/-- A run with its calls nested at some depth on the left, and the same at another depth on the
right. -/
def Mirror.atDepths (p : Provision) : Mirror :=
  .twins (p.akin_self Halt.AtLimit)

/-- Behind a call that only one of the two runs makes, the machines are the same. -/
theorem Mirror.Machines.shallower_eq {p : Provision} {d : Nat} {m₁ m₂ : Machine}
    (h : (Mirror.atDepths p).Machines (d + 1) d m₁ m₂) : m₁.shallower = m₂ := by
  obtain ⟨⟨hleft, _⟩, hright, hhost, hreport, hfunctions, hmixins, hframes⟩ := h
  obtain ⟨host₁, frames₁, functions₁, mixins₁, depth₁, report₁⟩ := m₁
  obtain ⟨host₂, frames₂, functions₂, mixins₂, depth₂, report₂⟩ := m₂
  have hframes : frames₁ = frames₂ := hframes
  dsimp only at hhost hreport hfunctions hmixins hleft hright
  subst hhost hreport hfunctions hmixins hframes hleft hright
  rfl

namespace Run

variable {p : Provision} {m : Machine}

/-- Statements end alike one call deeper, and leave the same but for the depth. -/
theorem ends_deeper {levels : Nat} (hdepth : m.callDepth < p.settings.limits.maxCallDepth)
    (hlevels : p.settings.limits.maxCallDepth < m.callDepth + (levels + 1)) (env : Environment)
    (ctx : Context) (body : List Statement) :
    (Mirror.atDepths p).Ends (m.callDepth + 1) m.callDepth (· = ·)
      (runBlock p (enterWithin p levels) env ctx body m.deeper)
      (runBlock p (enterWithin p (levels + 1)) env ctx body m) := by
  have he : Enter.Mirrors (.atDepths p) (m.callDepth + 1) m.callDepth
      (enterWithin p levels) (enterWithin p (levels + 1)) :=
    enterWithin_mirrors (.atDepths p) levels (levels + 1) hdepth
      (show p.settings.limits.maxCallDepth < m.callDepth + 1 + levels by omega) hlevels
      (show m.callDepth + p.settings.limits.maxCallDepth ≤
        m.callDepth + 1 + p.settings.limits.maxCallDepth by omega) (.inr fun _ => id)
  have hstart : (Mirror.atDepths p).Machines (m.callDepth + 1) m.callDepth m.deeper m :=
    { left := ⟨rfl, ⟨Nat.zero_le _, fun hname => by cases hname⟩⟩
      right := rfl
      host := rfl
      report := rfl
      functions := rfl
      mixins := rfl
      frames := rfl }
  exact (Mirrors.runBlock he body rfl ctx).ends hstart trivial

/-- **Imports in place.** Where the global scope is the innermost one, the import of a library that
never returns has the same result as the statements of the library, unless it halts at a limit. -/
theorem importLibrary_inPlace {levels : Nat} {name : String} {library : Patch}
    (hlookup : p.registry.library? name = some library)
    (hlibrary : Statement.mayReturnIn library.statements = false)
    (hlevels : p.settings.limits.maxCallDepth < m.callDepth + (levels + 1)) (global : FrameId)
    (ctx : Context) (loc : Coordinate) :
    (∃ e m', runStatement p (enterWithin p (levels + 1)) ⟨global, []⟩ ctx
        (.importLibrary loc name) m = .error e m' ∧ e.AtLimit) ∨
      SameResult
        (runStatement p (enterWithin p (levels + 1)) ⟨global, []⟩ ctx (.importLibrary loc name) m)
        (runBlock p (enterWithin p (levels + 1)) ⟨global, []⟩ ctx library.statements m) := by
  by_cases hdepth : m.callDepth < p.settings.limits.maxCallDepth
  · have himport := runStatement_importLibrary_of_lt hlookup levels ⟨global, []⟩ ctx loc hdepth
    have hends := ends_deeper hdepth hlevels ⟨global, []⟩ ctx library.statements
    have hgoes : (runBlock p (enterWithin p levels) ⟨global, []⟩ ctx library.statements).GoesOn :=
      .runBlock ⟨global, []⟩ ctx library.statements hlibrary
    have hnext := hgoes m.deeper
    rw [himport]
    dsimp only [Environment.globalScope]
    generalize runBlock p (enterWithin p levels) ⟨global, []⟩ ctx library.statements m.deeper = r₁
      at hends hnext
    generalize runBlock p (enterWithin p (levels + 1)) ⟨global, []⟩ ctx library.statements m = r₂
      at hends
    cases hends with
    | excused he => exact .inl ⟨_, _, rfl, he⟩
    | error hhost hreport => exact .inr (.error hhost hreport)
    | @ok flow₁ flow₂ m₁ m₂ heq hm =>
      have hflow : flow₁ = .next := hnext _ _ rfl
      subst heq hflow
      rw [← hm.shallower_eq]
      exact .inr (.ok Flow.next _)
  · have hstop := runStatement_importLibrary_of_le hlookup levels ⟨global, []⟩ ctx loc
      (Nat.not_lt.mp hdepth)
    exact .inl ⟨_, _, hstop, rfl⟩

/-- Statements leave the depth of calls as it is. -/
theorem callDepth_runBlock {levels : Nat}
    (hdepth : m.callDepth ≤ p.settings.limits.maxCallDepth)
    (hlevels : p.settings.limits.maxCallDepth < m.callDepth + levels) (env : Environment)
    (ctx : Context) (body : List Statement) {flow : Flow} {m' : Machine}
    (hrun : runBlock p (enterWithin p levels) env ctx body m = .ok flow m') :
    m'.callDepth = m.callDepth := by
  have he : Enter.Mirrors (.atDepths p) m.callDepth m.callDepth (enterWithin p levels)
      (enterWithin p levels) :=
    enterWithin_mirrors (.atDepths p) levels levels hdepth hlevels hlevels (Nat.le_refl _)
      (.inl rfl)
  have henv : (Mirror.atDepths p).envs env env := rfl
  have hgrows := (Mirrors.runBlock he body henv ctx).grows
    ⟨rfl, ⟨Nat.zero_le _, fun hname => by cases hname⟩⟩
  dsimp only [Mirror.atDepths, Mirror.twins] at hgrows
  rw [after_ok hrun] at hgrows
  exact hgrows.1

/-- Statements with an import among them have the same result with the statements of the library
in its place, unless the import halts at a limit. -/
theorem runBlock_splice {levels : Nat} {name : String} {library : Patch}
    (hlookup : p.registry.library? name = some library)
    (hlibrary : Statement.mayReturnIn library.statements = false)
    (hdepth : m.callDepth ≤ p.settings.limits.maxCallDepth)
    (hlevels : p.settings.limits.maxCallDepth < m.callDepth + (levels + 1)) (global : FrameId)
    (ctx : Context) (loc : Coordinate) (before behind : List Statement) :
    (∃ e m', runBlock p (enterWithin p (levels + 1)) ⟨global, []⟩ ctx
        (before ++ .importLibrary loc name :: behind) m = .error e m' ∧ e.AtLimit) ∨
      SameResult
        (runBlock p (enterWithin p (levels + 1)) ⟨global, []⟩ ctx
          (before ++ .importLibrary loc name :: behind) m)
        (runBlock p (enterWithin p (levels + 1)) ⟨global, []⟩ ctx
          (before ++ library.statements ++ behind) m) := by
  rw [List.append_assoc, runBlock_append _ _ _ before, runBlock_append _ _ _ before]
  cases hrun : runBlock p (enterWithin p (levels + 1)) ⟨global, []⟩ ctx before m with
  | error e m' =>
    rw [bind_error hrun, bind_error hrun]
    exact .inr (.refl _)
  | ok flow m' =>
    rw [bind_ok hrun, bind_ok hrun]
    cases flow with
    | returned v => exact .inr (.refl _)
    | next =>
      have hsame := callDepth_runBlock hdepth hlevels ⟨global, []⟩ ctx before hrun
      rw [← hsame] at hlevels
      dsimp only
      rw [runBlock, runBlock_append]
      rcases importLibrary_inPlace hlookup hlibrary hlevels global ctx loc with
        ⟨e, m'', hstop, he⟩ | himport
      · exact .inl ⟨e, m'', bind_error hstop, he⟩
      · exact .inr (himport.bind _)

end Run

/-! ## Documents -/

namespace Patch

variable {p : Provision} {loc : Coordinate} {name : String} {library : Patch}

/-- A patch whose statement at a position is an import, and the patch with the statements of the
library in its place, are executed alike, unless the import halts at a limit. -/
theorem execute_splice (patch : Patch) {i : Nat}
    (hi : patch.statements[i]? = some (.importLibrary loc name))
    (hlookup : p.registry.library? name = some library)
    (hlibrary : Statement.mayReturnIn library.statements = false) (h : Host) :
    (∃ e, (patch.execute p h).1 = .error e ∧ e.AtLimit) ∨
      (patch.splice i library.statements).execute p h = patch.execute p h := by
  obtain ⟨hlt, hget⟩ := List.getElem?_eq_some_iff.mp hi
  have hsplit : patch.statements =
      patch.statements.take i ++ (.importLibrary loc name :: patch.statements.drop (i + 1)) := by
    rw [← hget, List.getElem_cons_drop, List.take_append_drop]
  rw [execute_eq_outcome, execute_eq_outcome, hsplit, splice]
  rcases Run.runBlock_splice (m := (Machine.start h).2) hlookup hlibrary (Nat.zero_le _)
    (show p.settings.limits.maxCallDepth < 0 + (p.settings.limits.maxCallDepth + 1) by omega)
    (Machine.start h).1.global ⟨Host.root, false, [Host.root]⟩ loc (patch.statements.take i)
    (patch.statements.drop (i + 1)) with ⟨e, m', hstop, he⟩ | hsame
  · exact .inl ⟨e, congrArg (fun r => (outcome r).1) hstop, he⟩
  · exact .inr hsame.outcome_eq.symm

/-- **Imports are flat.** An execution that does not end at a limit has the same result, and leaves
the same tree, if the statements of the library stand in place of an import at the top of the
document. Where the import is reached and goes on, it leaves the machine that the statements of the
library leave there, with all its bindings, functions, mixins and stages. -/
theorem execute_import_flat (d library : Draft) {i : Nat}
    (hi : (ofDraft d).statements[i]? = some (.importLibrary loc name))
    (hlookup : p.registry.library? name = some (ofDraft library)) (h : Host)
    (hlimit : ∀ f, ((ofDraft d).execute p h).1 = .error (.failed f) → f.cause.trouble ≠ .limit) :
    let enter := Run.enterWithin p (p.settings.limits.maxCallDepth + 1)
    let run := Run.runBlock p enter (Machine.start h).1 ⟨Host.root, false, [Host.root]⟩
    ((ofDraft d).splice i (ofDraft library).statements).execute p h = (ofDraft d).execute p h ∧
    ∀ {m m' : Machine}, run ((ofDraft d).statements.take i) (Machine.start h).2 = .ok .next m →
      run [.importLibrary loc name] m = .ok .next m' →
      run (ofDraft library).statements m = .ok .next m' := by
  have hlibrary := Draft.mayReturnIn_readTop library.statements
  have hlevels : p.settings.limits.maxCallDepth < 0 + (p.settings.limits.maxCallDepth + 1) := by
    omega
  refine ⟨?_, fun {m m'} hbefore himport => ?_⟩
  · rcases execute_splice (ofDraft d) hi hlookup hlibrary h with ⟨e, herror, he⟩ | hsame
    · cases e with
      | failed f => exact absurd he (hlimit f herror)
      | trapped | exhausted => exact he.elim
    · exact hsame
  · have hdepth : m.callDepth = 0 :=
      Run.callDepth_runBlock (m := (Machine.start h).2) (Nat.zero_le _) hlevels _ _ _ hbefore
    rw [← hdepth] at hlevels
    have hsplice := Run.runBlock_splice (m := m) hlookup hlibrary (hdepth ▸ Nat.zero_le _) hlevels
      (Machine.start h).1.global ⟨Host.root, false, [Host.root]⟩ loc [] []
    rw [List.append_nil] at hsplice
    rcases hsplice with ⟨e, m'', hstop, _⟩ | hsame
    · cases himport.symm.trans hstop
    · exact hsame.eq_ok himport

end Patch

/-- A library that defines a variable, a function, a mixin and a stage. -/
def Draft.lending : Draft :=
  ⟨.origin, [.declare .origin "$x" (.number .origin "1"),
    .function .origin "next" [.mk .origin "$n" none]
      [.ret .origin (some
        (.binary .origin .add (.variable .origin "$n") (.variable .origin "$x")))],
    .mixin .origin "mark" [] [.field .origin "marked" none (.variable .origin "$x")],
    .stage .origin "late" "7"]⟩

/-- A document that imports the library first and then uses what it has defined: the execution ends
with the stage of the library, and with two edits. -/
theorem Patch.execute_import_flat_lending :
    let library := Patch.ofDraft .lending
    let r : Registry := { Registry.withActiveMods [] with libraries := [("lib", library)] }
    let p : Provision := ⟨r, .standard⟩
    let call : Draft.Expr := .call .origin "next" [.mk .origin none (.variable .origin "$x")]
    let d : Draft := ⟨.origin, [.importLibrary .origin "lib",
      .selection .origin [] (.wildcard .origin)
        [.field .origin "f" none call, .includeMixin .origin "mark" []]]⟩
    let h := Host.ofDescription [] (.mk "doc" none [] .null [.mk "a" none [] .null [] false] false)
    ((Patch.ofDraft d).execute p h).1 = .ok ⟨[("late", 7)], 1, 0, [1], 2⟩ ∧
      ((Patch.ofDraft d).splice 0 library.statements).execute p h =
        (Patch.ofDraft d).execute p h := by
  intro library r p call d h
  have hok : ((Patch.ofDraft d).execute p h).1 = .ok ⟨[("late", 7)], 1, 0, [1], 2⟩ := by
    decide +kernel
  have hlimit : ∀ f, ((Patch.ofDraft d).execute p h).1 = .error (.failed f) →
      f.cause.trouble ≠ .limit := fun f hf => by
    rw [hok] at hf
    cases hf
  exact ⟨hok, (execute_import_flat d .lending rfl rfl h hlimit).1⟩

end Graft
