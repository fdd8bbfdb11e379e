import Graft.Proofs.Patch.Levels
import Graft.Proofs.Run.Frames
import Graft.Run.Execute

/-!
What a run does to its machine, one change at a time.

A computation is a function from machines to outcomes, which hides what happens between its
beginning and its end. `Change` lists everything that can happen: a frame is opened, a name
is bound, a routine is defined, the report is extended, a selector is resolved, an edit is
accepted. `Evolves` chains changes, with calls as brackets around what they run.

What is admitted depends on which statements are run and on which frames they may bind in.
`Terms` says both. On narrow terms a run can do little: where no statement is an edit, the
host does not change. On wide terms everything is admitted, and what is left to say is what
every change preserves.

A computation keeps to its terms from any machine that is in order for them. This is
`Makes`, and its rules follow the way computations are put together.
-/

set_option autoImplicit false

namespace Graft

variable {α β : Type}

/-! ## Terms -/

/-- Mixins are included by some statement that `P` holds of. -/
def Includes (P : Statement → Prop) : Prop :=
  ∃ loc name args, P (.includeMixin loc name args)

/-- Libraries are imported by some statement that `P` holds of. -/
def Imports (P : Statement → Prop) : Prop :=
  ∃ loc name, P (.importLibrary loc name)

/-- All that a registry can bring into a run consists of statements that `P` holds of. -/
structure Registry.Every (P : Statement → Prop) (r : Registry) : Prop where
  functions : ∀ {name : String} {f : Routine}, r.function? name = some f → f.Every P
  mixins : Includes P → ∀ {name : String} {f : Routine}, r.mixin? name = some f → f.Every P
  libraries : Imports P → ∀ {name : String} {q : Patch}, r.library? name = some q →
    Statement.EveryIn P q.statements

/-- What holds of all statements holds of those in a registry. -/
theorem Registry.every_of {P : Statement → Prop} (h : ∀ s, P s) (r : Registry) : r.Every P where
  functions _ := Routine.every_of h _
  mixins _ _ _ _ := Routine.every_of h _
  libraries _ _ _ _ := Statement.everyIn_of h _

/-- A registry from drafts consists of what drafts give at each level. -/
theorem Registry.FromDrafts.every {P : Statement → Prop} {r : Registry} (hr : r.FromDrafts)
    (hf : ∀ s : Statement, s.isFunctionLevel = true → P s)
    (hb : ∀ s : Draft.BlockStatement, P s.read) (ht : ∀ s : Draft.TopStatement, P s.read) :
    r.Every P where
  functions hlookup := by
    obtain ⟨params, body, rfl⟩ := hr.functions hlookup
    exact Draft.routine_every_readFunction hf params body
  mixins _ _ _ hlookup := by
    obtain ⟨params, body, rfl⟩ := hr.mixins hlookup
    exact Draft.routine_every_readMixin hf hb params body
  libraries _ _ _ hlookup := by
    obtain ⟨d, rfl⟩ := hr.libraries hlookup
    exact Draft.everyIn_readTop hf hb ht d.statements

/-- The terms on which a part of a run is run: the statements that occur in it, and the
frames that it may bind in. Frames from `base` on are its own. -/
structure Terms where
  provision : Provision
  statements : Statement → Prop
  frames : FrameId → Prop
  base : Nat
  /-- Edits go to elements that selections have yielded, and account is kept of these. -/
  accounted : Prop
  own : ∀ id, base ≤ id → frames id
  /-- A library binds in the global frame, whichever that is. -/
  global : Imports statements → ∀ id, frames id
  registry : provision.registry.Every statements

namespace Terms

/-- The limit on the depth of calls. -/
def callLimit (t : Terms) : Nat := t.provision.settings.limits.maxCallDepth

end Terms

/-! ## Changes -/

/-- Nothing, where a field is to be written, counts as an object without entries. -/
def Value.orObject : Value → Value
  | .null => .object []
  | v => v

/-- What an edit statement makes of a host. -/
inductive Host.Edited (fields : FieldConventions) (P : Statement → Prop) (h : Host)
    (id : ElementId) : Host → Prop
  | set {loc : Coordinate} {e : Expr} {v : Value} {h' : Host} :
    P (.set loc e) → v.isDeletion = false → h.set id v.withoutDeletions = .ok h' →
    Edited fields P h id h'
  | delete {s : Statement} {held : List ElementId} {h' : Host} :
    P s → s.isEdit = true → h.delete held id = .ok h' → Edited fields P h id h'
  | merge {loc : Coordinate} {e : Expr} {v : Value} {h' : Host} :
    P (.merge loc e) → v.isDeletion = false → h.merge id v = .ok h' → Edited fields P h id h'
  | field {loc : Coordinate} {key : String} {indexer : Option Indexer} {e : Expr}
    {path : List Segment} {v changed : Value} {h' : Host} :
    P (.field loc key indexer e) → Run.fieldPath key indexer = .ok path →
    Value.writeAt fields v (h.get id).value.orObject path = .ok changed →
    h.set id changed = .ok h' → Edited fields P h id h'

namespace Machine

/-- The machine inside a call. -/
def deeper (m : Machine) : Machine := { m with callDepth := m.callDepth + 1 }

/-- The machine behind a call. -/
def shallower (m : Machine) : Machine := { m with callDepth := m.callDepth - 1 }

/-- The machine with one more frame. -/
def opened (m : Machine) : Machine := { m with frames := m.frames.fresh.2 }

/-- The machine with one more edit in its report and this host. -/
def edited (m : Machine) (host : Host) : Machine :=
  { m with host, report := { m.report with edits := m.report.edits + 1 } }

/-- The machine with one more block run. -/
def ran (m : Machine) : Machine :=
  { m with report := { m.report with blocksRun := m.report.blocksRun + 1 } }

/-- The machine with one more block skipped. -/
def skipped (m : Machine) : Machine :=
  { m with report := { m.report with blocksSkipped := m.report.blocksSkipped + 1 } }

/-- The machine with these elements yielded by a selection that has left this host. -/
def yielded (m : Machine) (host : Host) (ids : List ElementId) : Machine :=
  { m with host, report := { m.report with matched := ids.reverse ++ m.report.matched } }

end Machine

/-- What the selector of a selection yields, and the host that it leaves. -/
def Selector.resolve (p : Provision) (selector : Selector) (scope : ElementId) (h : Host) :
    Except SelectorError (List ElementId) × Host :=
  selector.select p.registry.rulesets p.settings.limits.maxRulesetDepth scope h

/-- Selections are made below the root and below elements that have been yielded, where account
is kept of these. -/
def Machine.Scope (t : Terms) (m : Machine) (scope : ElementId) : Prop :=
  t.accounted → scope = Host.root ∨ scope ∈ m.report.matched

/-- One change of a machine, on the terms of a part of a run. -/
inductive Change (t : Terms) (m : Machine) : Machine → Prop
  | opened : Change t m m.opened
  | bound {id : FrameId} (name : String) (v : Value) :
    t.frames id → Change t m { m with frames := m.frames.bind id name v }
  | function {loc : Coordinate} {name : String} {params : List Param} {body : List Statement} :
    (Statement.function loc (some name) params body).Every t.statements →
    Change t m { m with functions := Table.insert m.functions name ⟨params, body⟩ }
  | mixin {loc : Coordinate} {name : String} {params : List Param} {body : List Statement} :
    (Statement.mixin loc name params body).Every t.statements →
    Change t m { m with mixins := Table.insert m.mixins name ⟨params, body⟩ }
  | stage {loc : Coordinate} {name : String} {priority : UInt64} :
    t.statements (.stage loc name priority) →
    Change t m
      { m with report := { m.report with stages := m.report.stages ++ [(name, priority)] } }
  | skipped {loc : Coordinate} {attributes : List Attribute} {selector : Selector}
    {body : List Statement} :
    t.statements (.selection loc attributes selector body) → Change t m m.skipped
  | ran {loc : Coordinate} {attributes : List Attribute} {selector : Selector}
    {body : List Statement} :
    t.statements (.selection loc attributes selector body) → Change t m m.ran
  /-- A selector failed, behind the additions that it had made by then. -/
  | failed {loc : Coordinate} {attributes : List Attribute} {selector : Selector}
    {body : List Statement} {scope : ElementId} {e : SelectorError} {host : Host} :
    t.statements (.selection loc attributes selector body) →
    selector.resolve t.provision scope m.host = (.error e, host) → m.Scope t scope →
    Change t m { m with host }
  | yielded {loc : Coordinate} {attributes : List Attribute} {selector : Selector}
    {body : List Statement} {scope : ElementId} {ids : List ElementId} {host : Host} :
    t.statements (.selection loc attributes selector body) →
    selector.resolve t.provision scope m.host = (.ok ids, host) → m.Scope t scope →
    Change t m (m.yielded host ids)
  | edited {id : ElementId} {host : Host} :
    m.host.Edited t.provision.settings.fields t.statements id host →
    (t.accounted → id ∈ m.report.matched) → Change t m (m.edited host)

/-- Changes in turn, and calls around changes. -/
inductive Evolves (t : Terms) : Machine → Machine → Prop
  | refl (m : Machine) : Evolves t m m
  | change {m m' : Machine} : Change t m m' → Evolves t m m'
  | call {m m' : Machine} :
    m.callDepth < t.callLimit → Evolves t m.deeper m' → Evolves t m m'.shallower
  | trans {m m' m'' : Machine} : Evolves t m m' → Evolves t m' m'' → Evolves t m m''

/-- **Invariants.** What every change preserves, and what does not depend on the depth of
calls, holds at the end if it holds at the beginning. -/
theorem Evolves.invariant {t : Terms} {J : Machine → Prop}
    (hchange : ∀ {m m' : Machine}, Change t m m' → J m → J m')
    (hdepth : ∀ {m : Machine} (n : Nat), J m → J { m with callDepth := n })
    {m m' : Machine} (h : Evolves t m m') : J m → J m' := by
  induction h with
  | refl m => exact id
  | change h => exact hchange h
  | call _ _ ih => exact fun hm => hdepth _ (ih (hdepth _ hm))
  | trans _ _ ih₁ ih₂ => exact fun hm => ih₂ (ih₁ hm)

/-- A call takes its depth back, so the depth of calls is the same in the end. -/
theorem Evolves.callDepth_eq {t : Terms} {m m' : Machine} (h : Evolves t m m') :
    m'.callDepth = m.callDepth := by
  induction h with
  | refl m => rfl
  | change h => cases h <;> rfl
  | call _ _ ih =>
    -- One step down, one step up.
    simp only [Machine.shallower, ih, Machine.deeper]
    omega
  | trans _ _ ih₁ ih₂ => exact ih₂.trans ih₁

/-- Frames are opened and never closed. -/
theorem Evolves.size_le {t : Terms} {m m' : Machine} (h : Evolves t m m') :
    m.frames.size ≤ m'.frames.size := by
  refine h.invariant (J := fun n => m.frames.size ≤ n.frames.size) ?_ (fun _ hn => hn)
    (Nat.le_refl _)
  intro n n' hchange hn
  cases hchange with
  | opened =>
    show m.frames.size ≤ n.frames.fresh.2.size
    rw [Frames.size_fresh]
    exact Nat.le_succ_of_le hn
  | bound name v _ =>
    rw [Frames.size_bind]
    exact hn
  | function | mixin | stage | skipped | ran | failed | yielded | edited => exact hn

/-- A frame that the terms do not offer keeps its bindings. -/
theorem Evolves.bindings_eq {t : Terms} {m m' : Machine} (h : Evolves t m m') {id : FrameId}
    (hid : ¬ t.frames id) : m'.frames.bindings id = m.frames.bindings id := by
  refine h.invariant (J := fun n => n.frames.bindings id = m.frames.bindings id) ?_
    (fun _ hn => hn) rfl
  intro n n' hchange hn
  cases hchange with
  | opened =>
    show n.frames.fresh.2.bindings id = m.frames.bindings id
    rw [Frames.bindings_fresh]
    exact hn
  | @bound own name v hown =>
    have hne : ¬ (own = id ∧ own < n.frames.size) := by
      rintro ⟨rfl, _⟩
      exact hid hown
    rw [Frames.bindings_bind, if_neg hne]
    exact hn
  | function | mixin | stage | skipped | ran | failed | yielded | edited => exact hn

/-! ## Machines in order -/

/-- A machine is in order for terms if the routines that were defined so far keep to them,
the frames that were there before are below `base`, and all elements in `X` have been
yielded by selections. -/
structure Machine.Sound (t : Terms) (X : ElementId → Prop) (m : Machine) : Prop where
  functions : ∀ {name : String} {f : Routine}, Table.get? m.functions name = some f →
    f.Every t.statements
  mixins : Includes t.statements → ∀ {name : String} {f : Routine},
    Table.get? m.mixins name = some f → f.Every t.statements
  base : t.base ≤ m.frames.size
  matched : ∀ id, X id → id ∈ m.report.matched

section

variable {t : Terms} {X : ElementId → Prop} {m m' : Machine}

/-- What holds of all that a table has still does when something is entered that it holds of. -/
theorem Table.of_get?_insert {ι : Type} {Q : ι → Prop} {table : Table ι} {entered other : String}
    {x y : ι} (hx : Q x) (h : ∀ {name : String} {y : ι}, Table.get? table name = some y → Q y)
    (hy : Table.get? (Table.insert table entered x) other = some y) : Q y := by
  rw [Table.get?_insert] at hy
  by_cases hn : entered = other
  · rw [if_pos hn] at hy
    cases hy
    exact hx
  · rw [if_neg hn] at hy
    exact h hy

theorem Machine.Sound.change (h : Change t m m') (hm : m.Sound t X) : m'.Sound t X := by
  obtain ⟨functions, mixins, base, matched⟩ := hm
  cases h with
  -- Frames are only added, and so are matches.
  | opened =>
    refine ⟨functions, mixins, ?_, matched⟩
    show t.base ≤ m.frames.fresh.2.size
    rw [Frames.size_fresh]
    exact Nat.le_succ_of_le base
  | bound name v _ =>
    refine ⟨functions, mixins, ?_, matched⟩
    rw [Frames.size_bind]
    exact base
  -- A definition keeps to the terms with all that is inside it.
  | function hs =>
    exact ⟨Table.of_get?_insert ⟨hs.2.1, hs.2.2⟩ functions, mixins, base, matched⟩
  | mixin hs =>
    exact ⟨functions, fun hi => Table.of_get?_insert ⟨hs.2.1, hs.2.2⟩ (mixins hi), base,
      matched⟩
  | yielded _ _ _ =>
    exact ⟨functions, mixins, base, fun id hid => List.mem_append_right _ (matched id hid)⟩
  | stage | skipped | ran | failed | edited => exact ⟨functions, mixins, base, matched⟩

theorem Machine.Sound.atDepth (n : Nat) (hm : m.Sound t X) :
    ({ m with callDepth := n } : Machine).Sound t X :=
  ⟨hm.functions, hm.mixins, hm.base, hm.matched⟩

theorem Machine.Sound.evolves (h : Evolves t m m') (hm : m.Sound t X) : m'.Sound t X :=
  h.invariant (J := fun m => m.Sound t X) (fun h hm => hm.change h) (fun n hm => hm.atDepth n) hm

/-- More elements may be taken as yielded once they have been. -/
theorem Machine.Sound.widen {Y : ElementId → Prop} (hm : m.Sound t X)
    (hY : ∀ id, Y id → id ∈ m.report.matched) : m.Sound t Y :=
  ⟨hm.functions, hm.mixins, hm.base, hY⟩

end

/-! ## Computations that keep to their terms -/

/-- The machine that a computation leaves behind, with an answer or with a halt. -/
def Run.after (x : Run α) (m : Machine) : Machine :=
  match x m with
  | .ok _ m' => m'
  | .error _ m' => m'

theorem Run.after_ok {x : Run α} {m m' : Machine} {a : α} (h : x m = .ok a m') :
    Run.after x m = m' := by
  rw [Run.after, h]

theorem Run.after_error {x : Run α} {m m' : Machine} {e : Halt} (h : x m = .error e m') :
    Run.after x m = m' := by
  rw [Run.after, h]

theorem Run.bind_ok {x : Run α} {f : α → Run β} {m m' : Machine} {a : α} (h : x m = .ok a m') :
    (x >>= f) m = f a m' := by
  show EStateM.bind x f m = f a m'
  rw [EStateM.bind, h]

theorem Run.bind_error {x : Run α} {f : α → Run β} {m m' : Machine} {e : Halt}
    (h : x m = .error e m') : (x >>= f) m = .error e m' := by
  show EStateM.bind x f m = .error e m'
  rw [EStateM.bind, h]

/-- A computation in two parts has an answer if both parts have. -/
theorem Run.bind_eq_ok_iff {x : Run α} {f : α → Run β} {m m'' : Machine} {b : β} :
    (x >>= f) m = .ok b m'' ↔ ∃ a m', x m = .ok a m' ∧ f a m' = .ok b m'' := by
  cases hx : x m with
  | ok a m' =>
    rw [Run.bind_ok hx]
    constructor
    · exact fun hf => ⟨a, m', rfl, hf⟩
    · rintro ⟨a', m₁, ha, hf⟩
      cases ha
      exact hf
  | error e m' =>
    rw [Run.bind_error hx]
    constructor
    · intro h
      cases h
    · rintro ⟨a', m₁, ha, _⟩
      cases ha

/-- A check or an operation that has an answer leaves the machine as it is. -/
theorem Run.ofExcept_eq_ok {ε : Type} {loc : Coordinate} {cause : ε → Cause} {r : Except ε α}
    {a : α} {m m' : Machine} (h : Run.ofExcept loc cause r m = .ok a m') :
    r = .ok a ∧ m = m' := by
  cases r with
  | ok b =>
    cases h
    exact ⟨rfl, rfl⟩
  | error e => cases h

/-- What goes on with the state of the machine goes on with this machine. -/
theorem Run.get_bind (f : Machine → Run α) (m : Machine) : (MonadState.get >>= f) m = f m m :=
  rfl

theorem Run.after_bind_ok {x : Run α} (f : α → Run β) {m m' : Machine} {a : α}
    (h : x m = .ok a m') : Run.after (x >>= f) m = (f a).after m' := by
  rw [Run.after, Run.after, Run.bind_ok h]

/-- An edit that the host accepts is counted. -/
theorem Run.edit_ok (loc : Coordinate) (change : Host → Except HostError Host) {m : Machine}
    {host : Host} (h : change m.host = .ok host) :
    Run.edit loc change m = .ok () (m.edited host) := by
  rw [Run.edit, h]
  rfl

/-- An edit that the host refuses changes nothing. -/
theorem Run.edit_error (loc : Coordinate) (change : Host → Except HostError Host) {m : Machine}
    {e : HostError} (h : change m.host = .error e) :
    Run.edit loc change m = .error (.failed ⟨loc, .host e⟩) m := by
  rw [Run.edit, h]
  rfl

/-- A call that the limit admits runs one deeper and takes that back. -/
theorem Run.withCall_of_lt {limit : Nat} (loc : Coordinate) (x : Run α) {m : Machine}
    (h : m.callDepth < limit) : Run.withCall limit loc x m =
      match x m.deeper with
      | .ok a m' => .ok a m'.shallower
      | .error e m' => .error e m'.shallower :=
  if_neg (Nat.not_le.mpr h)

/-- A computation keeps to its terms from every machine that is in order, however it ends,
and its answers satisfy `Q`. -/
def Makes (t : Terms) (X : ElementId → Prop) (x : Run α) (Q : α → Prop) : Prop :=
  ∀ m : Machine, m.Sound t X →
    Evolves t m (x.after m) ∧ ∀ a m', x m = .ok a m' → Q a

namespace Makes

variable {t : Terms} {X : ElementId → Prop} {Q : α → Prop} {Q' : β → Prop} {x : Run α}

theorem pure {a : α} (h : Q a) : Makes t X (pure a) Q := by
  intro m _
  refine ⟨.refl m, fun b m' hb => ?_⟩
  cases hb
  exact h

/-- What halts at once does nothing. -/
theorem throw (e : Halt) : Makes t X (throw e : Run α) Q := by
  intro m _
  exact ⟨.refl m, fun b m' hb => by cases hb⟩

theorem fail (loc : Coordinate) (cause : Cause) : Makes t X (Run.fail loc cause : Run α) Q :=
  throw _

theorem bind {f : α → Run β} (hx : Makes t X x Q) (hf : ∀ a, Q a → Makes t X (f a) Q') :
    Makes t X (x >>= f) Q' := by
  intro m hm
  obtain ⟨hev, hQ⟩ := hx m hm
  cases hr : x m with
  | error e m' =>
    have hbind := Run.bind_error (f := f) hr
    rw [Run.after_error hr] at hev
    rw [Run.after_error hbind]
    exact ⟨hev, fun b m'' hb => by rw [hbind] at hb; cases hb⟩
  | ok a m' =>
    have hbind := Run.bind_ok (f := f) hr
    rw [Run.after_ok hr] at hev
    -- The machine behind the first part is in order, so the second part keeps to the terms.
    obtain ⟨hev', hQ'⟩ := hf a (hQ a m' hr) m' (hm.evolves hev)
    refine ⟨?_, fun b m'' hb => hQ' b m'' (hbind ▸ hb)⟩
    rw [Run.after_bind_ok f hr]
    exact hev.trans hev'

/-- A computation that goes on with the state of the machine. -/
theorem get {f : Machine → Run β} (hf : ∀ m : Machine, m.Sound t X → Makes t X (f m) Q') :
    Makes t X (MonadState.get >>= f) Q' := by
  intro m hm
  exact hf m hm m hm

theorem ofExcept {ε : Type} (loc : Coordinate) (cause : ε → Cause) {r : Except ε α}
    (h : ∀ a, r = .ok a → Q a) : Makes t X (Run.ofExcept loc cause r) Q := by
  cases r with
  | ok a => exact pure (h a rfl)
  | error e => exact fail loc (cause e)

/-- Where a computation has an answer, the changes up to it, and what is known of it. -/
theorem behind {m m' : Machine} {a : α} (h : Makes t X x Q) (hm : m.Sound t X)
    (hx : x m = .ok a m') : Evolves t m m' ∧ Q a := by
  obtain ⟨hev, hQ⟩ := h m hm
  rw [Run.after_ok hx] at hev
  exact ⟨hev, hQ a m' hx⟩

/-- A single change, with its answer. -/
theorem modify {f : Machine → Machine} (h : ∀ m : Machine, m.Sound t X → Change t m (f m)) :
    Makes t X (MonadStateOf.modifyGet (fun m => ((), f m)) : Run Unit) (fun _ => True) :=
  fun m hm => ⟨.change (h m hm), fun _ _ _ => trivial⟩

/-- Opening a frame yields an environment whose innermost frame is a new one. -/
theorem child (env : Environment) :
    Makes t X (Run.child env) fun scope => t.frames scope.innermost := by
  intro m hm
  refine ⟨.change .opened, fun scope m' h => ?_⟩
  cases h
  exact t.own _ hm.base

theorem declare {env : Environment} (henv : t.frames env.innermost) (name : String) (v : Value) :
    Makes t X (Run.declare env name v) fun _ => True :=
  modify fun _ _ => .bound name v henv

theorem withCall {limit : Nat} {loc : Coordinate} (hlimit : limit = t.callLimit)
    (h : Makes t X x Q) : Makes t X (Run.withCall limit loc x) Q := by
  intro m hm
  by_cases hd : limit ≤ m.callDepth
  · -- At the limit nothing is run.
    have hcall : Run.withCall limit loc x m = Run.fail loc (.callLimit limit) m :=
      if_pos hd
    have hfail := fail (t := t) (X := X) (Q := Q) loc (.callLimit limit) m hm
    rw [Run.after, hcall]
    exact hfail
  · obtain ⟨hev, hQ⟩ := h m.deeper (hm.atDepth _)
    have hlt : m.callDepth < t.callLimit := by omega
    have hcall := Run.withCall_of_lt loc x (Nat.not_le.mp hd)
    cases hx : x m.deeper with
    | ok a m' =>
      rw [hx] at hcall
      rw [Run.after_ok hx] at hev
      rw [Run.after_ok hcall]
      refine ⟨.call hlt hev, fun b m'' hb => ?_⟩
      rw [hcall] at hb
      cases hb
      exact hQ a m' hx
    | error e m' =>
      rw [hx] at hcall
      rw [Run.after_error hx] at hev
      rw [Run.after_error hcall]
      exact ⟨.call hlt hev, fun b m'' hb => by rw [hcall] at hb; cases hb⟩

end Makes

end Graft
