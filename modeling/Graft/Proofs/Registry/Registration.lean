import Graft.Proofs.InPlace
import Graft.Proofs.Table.Order
import Graft.Registry

/-!
What a history of registrations leaves in a registry.

The four kinds of registrations are refused for the same reasons in the same order: the name is
blank, what is registered is not acceptable, the name is taken. What is acceptable differs from
kind to kind. A registration that is not refused enters one thing under one name of its kind, and
every other lookup finds what it found before. In place, all checks come before the entry, so what a
refused registration leaves is the registry as it was.

So a registry holds under each name what was first registered there, and a registration succeeds
if its name is not blank, what it registers is acceptable, and no earlier one of its kind has
taken the name.
-/

set_option autoImplicit false

namespace Graft

/-- No parameter without default comes after one that has a default. -/
def Routine.RequiredFirst (f : Routine) : Prop :=
  f.params.Pairwise fun p q => p.default.isSome = true → q.default.isSome = true

/-- A registration that is asked for. -/
inductive Registration where
  | ruleset (name : String) (s : Selector)
  /-- A function brings its name; a closure has none. -/
  | function (name : Option String) (f : Routine)
  | mixin (name : String) (m : Routine)
  | library (name : String) (p : Patch)

/-- What a registry holds under a name. -/
inductive Definition where
  | selector (s : Selector)
  | routine (f : Routine)
  | document (p : Patch)

namespace Registration

/-- The kind of what is registered. -/
def kind : Registration → RegistryKind
  | ruleset _ _ => .ruleset
  | function _ _ => .function
  | mixin _ _ => .mixin
  | library _ _ => .library

/-- The name it is registered under. -/
def name : Registration → String
  | ruleset name _ => name
  | function name _ => name.getD ""
  | mixin name _ => name
  | library name _ => name

/-- What is registered. -/
def definition : Registration → Definition
  | ruleset _ s => .selector s
  | function _ f => .routine f
  | mixin _ m => .routine m
  | library _ p => .document p

/-- What a registry accepts: a selector that is not an invalid one, parameters with the defaults
last, a document that was read in full. -/
def Acceptable : Registration → Prop
  | ruleset _ s => Registry.isInvalid s = false
  | function _ f => f.RequiredFirst
  | mixin _ m => m.RequiredFirst
  | library _ p => p.faulty = false

/-- What a registry answers to what it does not accept. -/
def refusal : Registration → RegistryError
  | ruleset name _ => .invalidRuleset name
  | function name _ => .defaultsNotTrailing .function (name.getD "")
  | mixin name _ => .defaultsNotTrailing .mixin name
  | library name _ => .faultyLibrary name

/-- The same as it is checked. -/
def passes : Registration → Bool
  | ruleset _ s => !Registry.isInvalid s
  | function _ f => defaultsTrail f.params
  | mixin _ m => defaultsTrail m.params
  | library _ p => !p.faulty

theorem passes_iff (c : Registration) : c.passes = true ↔ c.Acceptable := by
  cases c with
  | ruleset _ s => rw [passes, Acceptable, Bool.not_eq_true']
  | function _ f | mixin _ f => exact defaultsTrail_iff f.params
  | library _ p => rw [passes, Acceptable, Bool.not_eq_true']

/-- Whether it registers a name of a kind. -/
def isNamed (c : Registration) (kind : RegistryKind) (name : String) : Bool :=
  decide (c.kind = kind ∧ c.name = name)

end Registration

namespace Registry

variable {r r' : Registry} {c : Registration}

/-- A registration of any kind. -/
def register (r : Registry) : Registration → Except RegistryError Registry
  | .ruleset name s => r.registerRuleset name s
  | .function name f => r.registerFunction name f
  | .mixin name m => r.registerMixin name m
  | .library name p => r.registerLibrary name p

/-- What is found under a name of a kind. -/
def lookup (r : Registry) (kind : RegistryKind) (name : String) : Option Definition :=
  match kind with
  | .ruleset => (r.ruleset? name).map .selector
  | .function => (r.function? name).map .routine
  | .mixin => (r.mixin? name).map .routine
  | .library => (r.library? name).map .document

/-! ## One registration -/

/-- The registry with one more entry. -/
def enter (r : Registry) : Registration → Registry
  | .ruleset name s => { r with rulesets := Table.insert r.rulesets name s }
  | .function name f => { r with functions := Table.insert r.functions (name.getD "") f }
  | .mixin name m => { r with mixins := Table.insert r.mixins name m }
  | .library name p => { r with libraries := Table.insert r.libraries name p }

/-- Whether the name is taken. -/
def isTaken (r : Registry) : Registration → Bool
  | .ruleset name _ => Table.has r.rulesets name
  | .function name _ => Table.has r.functions (name.getD "")
  | .mixin name _ => Table.has r.mixins name
  | .library name _ => Table.has r.libraries name

theorem isSome_lookup (r : Registry) (c : Registration) :
    (r.lookup c.kind c.name).isSome = r.isTaken c := by
  cases c <;> exact Option.isSome_map

/-- The checks of all kinds, in their order. -/
theorem register_eq (r : Registry) (c : Registration) :
    r.register c =
      if Text.isBlankText c.name then .error (.emptyName c.kind)
      else if !c.passes then .error c.refusal
      else if (r.lookup c.kind c.name).isSome then .error (.duplicate c.kind c.name)
      else .ok (r.enter c) := by
  rw [isSome_lookup]
  cases c with
  | ruleset name s => rw [Registration.passes, Bool.not_not]; rfl
  | function name f | mixin name f => rfl
  | library name p => rw [Registration.passes, Bool.not_not]; rfl

theorem register_eq_ok_iff :
    r.register c = .ok r' ↔
      Text.isBlankText c.name = false ∧ c.Acceptable ∧ r.lookup c.kind c.name = none ∧
        r' = r.enter c := by
  rw [register_eq, ← c.passes_iff]
  constructor
  · intro h
    split at h
    · cases h
    · rename_i hblank
      split at h
      · cases h
      · rename_i hpasses
        split at h
        · cases h
        · rename_i htaken
          refine ⟨by simpa using hblank, by simpa using hpasses, by simpa using htaken, ?_⟩
          exact (Except.ok.inj h).symm
  · rintro ⟨hblank, hpasses, hfree, rfl⟩
    rw [hblank, hpasses, hfree]
    rfl

/-- What is entered is found under its name, and nothing else is found that was not there. -/
theorem lookup_enter (r : Registry) (c : Registration) (kind : RegistryKind) (name : String) :
    (r.enter c).lookup kind name =
      if c.isNamed kind name then some c.definition else r.lookup kind name := by
  cases c <;> cases kind <;>
    simp only [enter, lookup, ruleset?, function?, mixin?, library?, Table.get?_insert,
      Registration.isNamed, Registration.kind, Registration.name, Registration.definition,
      reduceCtorEq, true_and, false_and, decide_false, decide_eq_true_eq, Bool.false_eq_true,
      if_false] <;>
    split <;> rfl

/-- The registry behind a registration; one that is refused leaves it as it is. -/
def attempt (r : Registry) (c : Registration) : Registry :=
  match r.register c with
  | .ok r' => r'
  | .error _ => r

/-- The registry behind a history. -/
def attemptAll (r : Registry) (calls : List Registration) : Registry :=
  calls.foldl attempt r

/-- The registrations of a history that succeed. -/
def successes (r : Registry) : List Registration → List Registration
  | [] => []
  | c :: rest =>
    match r.register c with
    | .ok r' => c :: r'.successes rest
    | .error _ => r.successes rest

/-! ## In place -/

/-- A registration in place: the registry that stays is looked up before anything is entered. -/
def registerInPlace (c : Registration) : EStateM RegistryError Registry Unit := do
  if Text.isBlankText c.name then throw (.emptyName c.kind)
  if !c.passes then throw c.refusal
  if (← get).isTaken c then throw (.duplicate c.kind c.name)
  modify fun r => r.enter c

/-- **A refused registration leaves the registry as it was**, and an accepted one makes it what the
registration is said to make of it. -/
theorem registerInPlace_eq (r : Registry) (c : Registration) :
    registerInPlace c r = settleUnit r (r.register c) := by
  rw [register_eq, isSome_lookup]
  show (if Text.isBlankText c.name = true then _ else _ : EStateM RegistryError Registry Unit) r = _
  cases Text.isBlankText c.name with
  | true => rfl
  | false =>
    cases c.passes with
    | false => rfl
    | true =>
      -- Only here is the registry looked at, and nothing has been entered so far.
      show (if r.isTaken c = true then _ else _ : EStateM RegistryError Registry Unit) r = _
      cases r.isTaken c with
      | true => rfl
      | false => rfl

/-- A program that registers in place and goes on also if it is refused. -/
def attemptInPlace (c : Registration) : EStateM RegistryError Registry Unit :=
  tryCatch (registerInPlace c) fun _ => pure ()

theorem attemptInPlace_eq (r : Registry) (c : Registration) :
    attemptInPlace c r = .ok () (r.attempt c) := by
  show EStateM.tryCatch (registerInPlace c) (fun _ => pure ()) r = _
  rw [EStateM.tryCatch, registerInPlace_eq, attempt]
  cases r.register c with
  | ok r' => rfl
  | error e => rfl

/-- A history in place ends with the registry behind it. -/
theorem forM_attemptInPlace (r : Registry) (calls : List Registration) :
    calls.forM attemptInPlace r = .ok () (r.attemptAll calls) := by
  induction calls generalizing r with
  | nil => rfl
  | cons c rest ih =>
    show EStateM.bind (attemptInPlace c) (fun _ => rest.forM attemptInPlace) r = _
    rw [EStateM.bind, attemptInPlace_eq]
    exact ih (r.attempt c)

/-! ## Histories -/

theorem mem_successes {calls : List Registration} (h : c ∈ r.successes calls) :
    c ∈ calls ∧ Text.isBlankText c.name = false ∧ c.Acceptable := by
  induction calls generalizing r with
  | nil => cases h
  | cons d rest ih =>
    rw [successes] at h
    split at h
    · rename_i r' hok
      rcases List.mem_cons.mp h with rfl | h
      · obtain ⟨hblank, hacceptable, -, -⟩ := register_eq_ok_iff.mp hok
        exact ⟨List.mem_cons_self, hblank, hacceptable⟩
      · exact (ih h).imp_left (List.mem_cons_of_mem d)
    · exact (ih h).imp_left (List.mem_cons_of_mem d)

/-- **A history, looked up.** What was there stays; otherwise a lookup finds what the first
success of its kind and name has registered. -/
theorem lookup_attemptAll (r : Registry) (calls : List Registration) (kind : RegistryKind)
    (name : String) :
    (r.attemptAll calls).lookup kind name =
      (r.lookup kind name).or
        (((r.successes calls).find? fun c => c.isNamed kind name).map (·.definition)) := by
  induction calls generalizing r with
  | nil => simp [attemptAll, successes]
  | cons c rest ih =>
    have hstep : r.attemptAll (c :: rest) = (r.attempt c).attemptAll rest := rfl
    rw [hstep, ih, attempt, successes]
    cases hc : r.register c with
    | error e => rfl
    | ok r' =>
      obtain ⟨-, -, hfree, rfl⟩ := register_eq_ok_iff.mp hc
      rw [lookup_enter, List.find?_cons]
      by_cases hnamed : c.isNamed kind name = true
      · obtain ⟨rfl, rfl⟩ : c.kind = kind ∧ c.name = name := by
          simpa [Registration.isNamed] using hnamed
        rw [if_pos hnamed, hnamed, hfree]
        rfl
      · rw [if_neg hnamed, Bool.eq_false_iff.mpr hnamed]

theorem lookup_withActiveMods (mods : List String) (kind : RegistryKind) (name : String) :
    (withActiveMods mods).lookup kind name = none := by
  cases kind <;> rfl

theorem lookup_history (mods : List String) (calls : List Registration) (kind : RegistryKind)
    (name : String) :
    ((withActiveMods mods).attemptAll calls).lookup kind name =
      (((withActiveMods mods).successes calls).find? fun c => c.isNamed kind name).map
        (·.definition) := by
  rw [lookup_attemptAll, lookup_withActiveMods, Option.none_or]

/-- What a history has made known was registered, with a name that is not blank, and was
acceptable. -/
theorem exists_registration {mods : List String} {calls : List Registration}
    {kind : RegistryKind} {name : String} {d : Definition}
    (h : ((withActiveMods mods).attemptAll calls).lookup kind name = some d) :
    ∃ c ∈ calls, c.kind = kind ∧ c.name = name ∧ c.definition = d ∧
      Text.isBlankText name = false ∧ c.Acceptable := by
  rw [lookup_history, Option.map_eq_some_iff] at h
  obtain ⟨c, hc, hd⟩ := h
  obtain ⟨hmem, hblank, hacceptable⟩ := mem_successes (List.mem_of_find?_eq_some hc)
  obtain ⟨hkind, rfl⟩ : c.kind = kind ∧ c.name = name := by
    simpa [Registration.isNamed] using List.find?_some hc
  exact ⟨c, hmem, hkind, rfl, hd, hblank, hacceptable⟩

/-- A registration behind a history succeeds if its name is not blank, what it registers is
acceptable, and no success of its kind has taken the name. -/
theorem register_history_ok_iff (mods : List String) (calls : List Registration)
    (c : Registration) :
    (∃ r', ((withActiveMods mods).attemptAll calls).register c = .ok r') ↔
      Text.isBlankText c.name = false ∧ c.Acceptable ∧
        ∀ d ∈ (withActiveMods mods).successes calls, ¬ (d.kind = c.kind ∧ d.name = c.name) := by
  have hfree : ((withActiveMods mods).attemptAll calls).lookup c.kind c.name = none ↔
      ∀ d ∈ (withActiveMods mods).successes calls, ¬ (d.kind = c.kind ∧ d.name = c.name) := by
    rw [lookup_history, Option.map_eq_none_iff, List.find?_eq_none]
    simp only [Registration.isNamed, decide_eq_true_eq]
  rw [← hfree]
  constructor
  · rintro ⟨r', h⟩
    obtain ⟨hblank, hacceptable, hnone, -⟩ := register_eq_ok_iff.mp h
    exact ⟨hblank, hacceptable, hnone⟩
  · rintro ⟨hblank, hacceptable, hnone⟩
    exact ⟨_, register_eq_ok_iff.mpr ⟨hblank, hacceptable, hnone, rfl⟩⟩

/-- A function that a history has made known was registered with its name, which is not blank,
and asks for no argument behind an optional one. -/
theorem function?_history {mods : List String} {calls : List Registration} {name : String}
    {f : Routine} (h : ((withActiveMods mods).attemptAll calls).function? name = some f) :
    .function (some name) f ∈ calls ∧ Text.isBlankText name = false ∧ f.RequiredFirst := by
  have hlookup : ((withActiveMods mods).attemptAll calls).lookup .function name =
      some (.routine f) := by rw [lookup, h, Option.map_some]
  obtain ⟨c, hmem, hkind, rfl, hdefinition, hblank, hacceptable⟩ := exists_registration hlookup
  cases c with
  | function name f' =>
    cases hdefinition
    cases name with
    -- Without a name, it would have been registered under the empty one.
    | none => cases hblank
    | some name => exact ⟨hmem, hblank, hacceptable⟩
  | ruleset _ _ | mixin _ _ | library _ _ => cases hkind

theorem mixin?_history {mods : List String} {calls : List Registration} {name : String}
    {m : Routine} (h : ((withActiveMods mods).attemptAll calls).mixin? name = some m) :
    .mixin name m ∈ calls ∧ Text.isBlankText name = false ∧ m.RequiredFirst := by
  have hlookup : ((withActiveMods mods).attemptAll calls).lookup .mixin name =
      some (.routine m) := by rw [lookup, h, Option.map_some]
  obtain ⟨c, hmem, hkind, rfl, hdefinition, hblank, hacceptable⟩ := exists_registration hlookup
  cases c with
  | mixin name m' =>
    cases hdefinition
    exact ⟨hmem, hblank, hacceptable⟩
  | ruleset _ _ | function _ _ | library _ _ => cases hkind

/-- A history may end with a registration that is refused. -/
theorem attemptAll_append_refused {calls : List Registration} {e : RegistryError}
    (h : (r.attemptAll calls).register c = .error e) :
    r.attemptAll (calls ++ [c]) = r.attemptAll calls := by
  have hlast : r.attemptAll (calls ++ [c]) = (r.attemptAll calls).attempt c := by
    rw [attemptAll, List.foldl_append]
    rfl
  rw [hlast, attempt, h]

/-- **First come, first kept.** Behind any history of registrations, which may as well be made in
place: one that is refused changes no lookup, and in place leaves the registry as it was; one
succeeds if its name is not blank, what it registers is acceptable, and no earlier success of its
kind has the name; every lookup finds what the first success of its kind and name has registered;
and so the functions and mixins that are found have names that are not blank, and parameters with
the defaults last. -/
theorem history_keeps_first (mods : List String) (calls : List Registration) :
    (∀ c e, ((withActiveMods mods).attemptAll calls).register c = .error e →
      ∀ kind name, ((withActiveMods mods).attemptAll (calls ++ [c])).lookup kind name =
        ((withActiveMods mods).attemptAll calls).lookup kind name) ∧
    calls.forM attemptInPlace (withActiveMods mods) =
      .ok () ((withActiveMods mods).attemptAll calls) ∧
    (∀ c e r', registerInPlace c ((withActiveMods mods).attemptAll calls) = .error e r' ↔
      ((withActiveMods mods).attemptAll calls).register c = .error e ∧
        r' = (withActiveMods mods).attemptAll calls) ∧
    (∀ c r', registerInPlace c ((withActiveMods mods).attemptAll calls) = .ok () r' ↔
      ((withActiveMods mods).attemptAll calls).register c = .ok r') ∧
    (∀ c, (∃ r', ((withActiveMods mods).attemptAll calls).register c = .ok r') ↔
      Text.isBlankText c.name = false ∧ c.Acceptable ∧
        ∀ d ∈ (withActiveMods mods).successes calls, ¬ (d.kind = c.kind ∧ d.name = c.name)) ∧
    (∀ kind name, ((withActiveMods mods).attemptAll calls).lookup kind name =
      (((withActiveMods mods).successes calls).find? fun c => c.isNamed kind name).map
        (·.definition)) ∧
    (∀ name f, ((withActiveMods mods).attemptAll calls).function? name = some f →
      .function (some name) f ∈ calls ∧ Text.isBlankText name = false ∧ f.RequiredFirst) ∧
    (∀ name m, ((withActiveMods mods).attemptAll calls).mixin? name = some m →
      .mixin name m ∈ calls ∧ Text.isBlankText name = false ∧ m.RequiredFirst) := by
  refine ⟨fun c e hrefused kind name => ?_, forM_attemptInPlace _ calls, fun c e r' => ?_,
    fun c r' => ?_, register_history_ok_iff mods calls, lookup_history mods calls,
    fun _ _ => function?_history, fun _ _ => mixin?_history⟩
  · rw [attemptAll_append_refused hrefused]
  · rw [registerInPlace_eq, settleUnit_eq_error_iff]
  · rw [registerInPlace_eq, settleUnit_eq_ok_iff]

/-- A closure is refused, and so is the second function of a name, which does not take the place
of the first, in place either. -/
theorem history_keeps_first_function :
    let first : Routine := ⟨[.mk .origin "x" none], []⟩
    let calls : List Registration := [.function none ⟨[], []⟩, .function (some "f") first]
    let second : Registration := .function (some "f") ⟨[], []⟩
    ((withActiveMods []).attemptAll calls).register second = .error (.duplicate .function "f") ∧
    ((withActiveMods []).attemptAll (calls ++ [second])).lookup .function "f" =
      some (.routine first) ∧
    registerInPlace second ((withActiveMods []).attemptAll calls) =
      .error (.duplicate .function "f") ((withActiveMods []).attemptAll calls) ∧
    ((withActiveMods []).attemptAll calls).lookup .mixin "f" = none ∧
    first.RequiredFirst := by
  intro first calls second
  obtain ⟨hrefused, -, hinPlace, -, -, hlookup, hfunction, -⟩ := history_keeps_first [] calls
  have hblank : Text.isBlankText "f" = false := by decide +kernel
  have hclosure : (withActiveMods []).register (.function none ⟨[], []⟩) =
      .error (.emptyName .function) := by rw [register_eq]; rfl
  have hfirst : (withActiveMods []).register (.function (some "f") first) =
      .ok ((withActiveMods []).enter (.function (some "f") first)) :=
    register_eq_ok_iff.mpr ⟨hblank, List.pairwise_singleton _ _, rfl, rfl⟩
  have hsuccesses : (withActiveMods []).successes calls = [.function (some "f") first] := by
    simp only [calls, successes, hclosure, hfirst]
  have hfound : ((withActiveMods []).attemptAll calls).lookup .function "f" =
      some (.routine first) := by
    rw [hlookup, hsuccesses]
    rfl
  have herror : ((withActiveMods []).attemptAll calls).register second =
      .error (.duplicate .function "f") := by
    have htaken : (((withActiveMods []).attemptAll calls).lookup second.kind second.name).isSome =
        true := Option.isSome_of_eq_some hfound
    rw [register_eq, htaken]
    have hname : Text.isBlankText second.name = false := hblank
    rw [hname]
    rfl
  refine ⟨herror, ?_, (hinPlace second _ _).mpr ⟨herror, rfl⟩, ?_, ?_⟩
  · rw [hrefused second _ herror, hfound]
  · rw [hlookup, hsuccesses]
    rfl
  · rw [lookup, Option.map_eq_some_iff] at hfound
    obtain ⟨f, hf, hdefinition⟩ := hfound
    obtain rfl : f = first := Definition.routine.inj hdefinition
    exact (hfunction "f" _ hf).2.2

end Registry

end Graft
