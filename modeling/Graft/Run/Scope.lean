import Graft.Table
import Graft.Value.Basic

/-!
Scopes: the variables that a place in a running patch can see.

Bindings live in frames, and frames in a store that only grows. An environment is a chain
of frames, the global one first; environments share their frames, so a declaration in one
is seen by every other that holds the frame. `$name` looks from the global frame inward,
`%name` from the innermost frame outward.
-/

set_option autoImplicit false

namespace Graft

/-- The place of a frame in the store. -/
abbrev FrameId := Nat

/-- All frames that have been opened. -/
structure Frames where
  frames : Array (Table Value)
  deriving Inhabited

/-- A chain of frames: the global one, and the others with the innermost first. -/
structure Environment where
  global : FrameId
  inner : List FrameId
  deriving Repr, DecidableEq, Inhabited

namespace Frames

/-- The store before anything is opened. -/
def empty : Frames := ⟨#[]⟩

/-- The number of frames that have been opened. -/
def size (s : Frames) : Nat := s.frames.size

/-- The bindings of a frame. -/
def bindings (s : Frames) (id : FrameId) : Table Value :=
  s.frames.getD id []

/-- Opens an empty frame. -/
def fresh (s : Frames) : FrameId × Frames :=
  (s.frames.size, ⟨s.frames.push []⟩)

/-- Binds a name in a frame, over any earlier binding of it there. -/
def bind (s : Frames) (id : FrameId) (name : String) (v : Value) : Frames :=
  ⟨s.frames.modify id fun t => Table.insert t name v⟩

/-- The first binding of a name along a list of frames. -/
def find? (s : Frames) (name : String) : List FrameId → Option Value
  | [] => none
  | id :: rest =>
    match Table.get? (s.bindings id) name with
    | some v => some v
    | none => find? s name rest

end Frames

namespace Environment

/-- The innermost frame. -/
def innermost (env : Environment) : FrameId :=
  env.inner.headD env.global

/-- The frames from the innermost outward. -/
def outward (env : Environment) : List FrameId :=
  env.inner ++ [env.global]

/-- The frames from the global one inward. -/
def inward (env : Environment) : List FrameId :=
  env.global :: env.inner.reverse

/-- The chain that is the global frame alone. -/
def globalScope (env : Environment) : Environment :=
  ⟨env.global, []⟩

/-- An environment of one new frame, which is its global one. -/
def start (s : Frames) : Environment × Frames :=
  let (id, s) := s.fresh
  (⟨id, []⟩, s)

/-- The chain with a new frame inside it. -/
def child (env : Environment) (s : Frames) : Environment × Frames :=
  let (id, s) := s.fresh
  (⟨env.global, id :: env.inner⟩, s)

/-- A new frame directly inside the global one. -/
def callFrame (env : Environment) (s : Frames) : Environment × Frames :=
  env.globalScope.child s

/-- Binds a name in the innermost frame. -/
def declare (env : Environment) (s : Frames) (name : String) (v : Value) : Frames :=
  s.bind env.innermost name v

/-- What `$name` means. -/
def findInward? (env : Environment) (s : Frames) (name : String) : Option Value :=
  s.find? name env.inward

/-- What `%name` means. -/
def findOutward? (env : Environment) (s : Frames) (name : String) : Option Value :=
  s.find? name env.outward

/-- The bindings of the innermost frame. -/
def declared (env : Environment) (s : Frames) : Table Value :=
  s.bindings env.innermost

end Environment

end Graft
