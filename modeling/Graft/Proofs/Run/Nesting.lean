import Graft.Proofs.Run.Moment

/-!
How scopes and calls nest during an execution.

An execution gets its environments in three ways: it opens a frame inside one that it has,
it goes back to the global frame, or it calls a closure, which brings along the environment
that it was written in. All of these are chains of frames of the store, and since the store
only grows, they stay so. A call takes one of the levels that are provided for and goes one
step deeper, so that the levels which are left and the depth of calls always make up the same
number. `Nested` says both of a moment, and every moment of an execution is nested.
-/

set_option autoImplicit false

namespace Graft

/-! ## Frames -/

section

variable {t : Terms} {m m' : Machine}

theorem Change.grows (h : Change t m m') : m.frames.Grows m'.frames := by
  cases h with
  | opened => exact .fresh _
  | bound name v _ => exact .bind _ _ name v
  | function | mixin | stage | skipped | ran | failed | yielded | edited => exact .refl _

theorem Evolves.grows (h : Evolves t m m') : m.frames.Grows m'.frames :=
  h.invariant (J := fun m' => m.frames.Grows m'.frames) (fun hc hm => hm.trans hc.grows)
    (fun _ hm => hm) (.refl _)

theorem Calls.grows {μ μ' : Moment} (h : Calls t μ μ') :
    μ.machine.frames.Grows μ'.machine.frames :=
  h.invariant (J := fun m => μ.machine.frames.Grows m.frames) (fun hc hm => hm.trans hc.grows)
    (fun _ hm => hm) (.refl _)

end

/-! ## Nested moments -/

/-- The environments that a part brings along are environments of the store. -/
def Part.Within (s : Frames) : Part → Prop
  | expr env _ _ => env.Within s
  | exprs env _ _ => env.Within s
  | entries env _ _ _ => env.Within s
  | args env _ _ => env.Within s
  | call env _ _ _ _ as => env.Within s ∧ Argument.Every (fun c => c.env.Within s) as
  | items _ _ _ c _ => c.env.Within s
  | closure _ _ c _ => c.env.Within s
  | routine _ _ _ frame _ _ => frame.Within s
  | slots _ frame _ _ _ => frame.Within s
  | statement env _ _ => env.Within s
  | block env _ _ => env.Within s
  | branches env _ _ => env.Within s
  | range env _ _ _ _ _ _ _ => env.Within s
  | each env _ _ _ _ _ _ _ => env.Within s
  | again env _ _ _ _ _ => env.Within s
  | visits env _ _ _ _ => env.Within s

namespace Moment

/-- A moment is nested if its environments are of the store, and if as many levels are left as
the limit has above the depth of calls, and one more. -/
structure Nested (p : Provision) (μ : Moment) : Prop where
  within : μ.part.Within μ.machine.frames
  depth : μ.machine.callDepth ≤ p.settings.limits.maxCallDepth
  levels : μ.levels + μ.machine.callDepth = p.settings.limits.maxCallDepth + 1

/-- The beginning of an execution is nested. -/
theorem nested_start (p : Provision) (patch : Patch) (h : Host) : (start p patch h).Nested p where
  within := Environment.Within.start .empty
  depth := Nat.zero_le _
  levels := rfl

section

variable {t : Terms} {X : ElementId → Prop} {μ μ' : Moment}

/-- What is called from a part has environments of the store if the part has. -/
theorem Next.within (h : Next t.provision μ μ') (hμ : μ.Sound t X)
    (hgrows : μ.machine.frames.Grows μ'.machine.frames)
    (hw : μ.part.Within μ.machine.frames) : μ'.part.Within μ'.machine.frames := by
  obtain ⟨hm, hpart⟩ := hμ
  have he : ∀ l, Enter.Keeps t (Run.enterWithin t.provision l) := Run.enterWithin_keeps t
  cases h with
  | call hx =>
    -- The closures among the arguments are written in this environment.
    have hargs := ((Makes.evaluateArgs (he _) _ hpart.2 _ hpart.1).behind hm hx).2
    exact ⟨hw.grows hgrows, hargs.imp fun c hc => hc.2 ▸ hw.grows hgrows⟩
  | memberCall hx hy =>
    have hev := ((Makes.evaluate (he _) _ hpart.2 _ hpart.1.1).behind hm hx).1
    have hargs :=
      ((Makes.evaluateArgs (he _) _ hpart.2 _ hpart.1.2).behind (hm.evolves hev) hy).2
    exact ⟨hw.grows hgrows, hargs.imp fun c hc => hc.2 ▸ hw.grows hgrows⟩
  | routine _ hframe =>
    cases hframe
    exact hw.1.globalScope.child
  | items _ hinputs _ hclosure _ =>
    exact Inputs.mem_closures_ofArguments hinputs hw.2 _ (Inputs.mem_of_onlyClosure hclosure)
  | closure hframe =>
    cases hframe
    exact hw.child
  | mixin _ hargs hframe =>
    have hev := ((Makes.evaluateArgs (he _) _ hpart.2.2 _ hpart.1.2).behind hm hargs).1
    cases hframe
    exact (hw.grows hev.grows).child
  | library _ => exact hw.globalScope
  | otherwise hscope =>
    cases hscope
    exact hw.child
  | passed hx hscope =>
    have hev := ((Makes.evaluate (he _) _ hpart.2 _ hpart.1.1).behind hm hx).1
    cases hscope
    exact (hw.grows hev.grows).child
  | rangeBody hscope =>
    cases hscope
    exact hw.child.grows (.bind _ _ _ _)
  | @eachBody l env ctx loc key name body k v rest budget m scope m' hscope =>
    cases key with
    | none =>
      cases hscope
      exact hw.child.grows (.bind _ _ _ _)
    | some key =>
      cases hscope
      exact (hw.child.grows (.bind _ _ _ _)).grows (.bind _ _ _ _)
  | visit _ hscope =>
    cases hscope
    exact hw.child
  | _ => exact hw.grows hgrows

/-- What is called from a nested moment is nested. -/
theorem Next.nested (h : Next t.provision μ μ') (hμ : μ.Sound t X) (hn : μ.Nested t.provision) :
    μ'.Nested t.provision := by
  obtain ⟨_, hcall, -⟩ := h.sound hμ
  have hw := h.within hμ hcall.grows hn.within
  have hdepth := hn.depth
  have hlevels := hn.levels
  cases hcall with
  | level hl hev =>
    have hsame := hev.callDepth_eq
    exact ⟨hw, by omega, by omega⟩
  | deeper hl hlt hev =>
    have hbelow : μ.machine.callDepth < t.provision.settings.limits.maxCallDepth := hlt
    have hmore : μ'.machine.callDepth = μ.machine.callDepth + 1 := hev.callDepth_eq
    exact ⟨hw, by omega, by omega⟩

end

/-- **Nesting.** Every moment of an execution is nested: its environments are chains of frames
of the store, calls are at most as deep as the limit, and there are levels left for as many
calls as the limit still admits. -/
theorem Reaches.nested {p : Provision} {patch : Patch} {h : Host} {μ : Moment}
    (hμ : Reaches p (start p patch h) μ) : μ.Nested p := by
  let t : Terms := .whole p (fun _ => True) (Registry.every_of (fun _ => trivial) _)
  have hstart : (start p patch h).Sound t fun _ => False :=
    Moment.sound_start _ (Statement.everyIn_of (fun _ => trivial) _)
  have hboth : (∃ X, μ.Sound t X) ∧ μ.Nested p := by
    induction hμ with
    | refl => exact ⟨⟨_, hstart⟩, nested_start p patch h⟩
    | tail _ hnext ih =>
      obtain ⟨⟨X, hsound⟩, hnested⟩ := ih
      obtain ⟨Y, -, hsound'⟩ := Next.sound (t := t) hnext hsound
      exact ⟨⟨Y, hsound'⟩, Next.nested (t := t) hnext hsound hnested⟩
  exact hboth.2

end Moment

end Graft
