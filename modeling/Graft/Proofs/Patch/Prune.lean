import Graft.Proofs.Patch.Placement
import Graft.Run.Execute

/-!
Patches without the blocks that may not run.

Whether a block may run is decided by its attributes, by what the run is provided with, and by
whether the block is inside another one. That is known beforehand: branches and loops lead neither
into a block nor out of one, the bodies of selections and mixins are always run inside a block,
and documents, libraries among them, are run outside of all. So the blocks that a run would skip
can be taken out of a patch before it is run, and out of the mixins and libraries of the registry.
-/

set_option autoImplicit false

namespace Graft

/-! ## Blocks that may not run -/

namespace Provision

variable (p : Provision)

/-- An attribute asks for a mod that is not active, or for the absence of one that is. -/
def refuses : Attribute → Bool
  | .requireMod _ name => !p.registry.isModActive name
  | .requireNotMod _ name => p.registry.isModActive name
  | .runAtStage _ _ => false

/-- The run is for one stage, and a block with these attributes does not belong to it. -/
def isOtherStage (attributes : List Attribute) : Bool :=
  match p.settings.stage with
  | some stage => stageOf? attributes != some stage
  | none => false

/-- A block with these attributes may not run: some mod is in the way, or the block is inside no
other and does not belong to the stage of the run. -/
def excludes (inside : Bool) (attributes : List Attribute) : Bool :=
  attributes.any p.refuses || (!inside && p.isOtherStage attributes)

end Provision

/-- A block is run unless it is excluded. The attributes that ask for a stage count only in a run
for one stage, outside of all blocks. -/
theorem Run.isWanted_eq_not_excludes (p : Provision) (attributes : List Attribute)
    (inside : Bool) : isWanted p attributes inside = !p.excludes inside attributes := by
  rw [isWanted, Provision.excludes, Bool.not_or, Bool.not_and, Bool.not_not,
    List.not_any_eq_all_not]
  congr 1
  · congr 1
    funext a
    cases a with
    | requireMod => exact (Bool.not_not _).symm
    | requireNotMod | runAtStage => rfl
  · rw [Provision.isOtherStage]
    cases p.settings.stage with
    | some stage => exact congrArg (inside || ·) (Bool.not_not _).symm
    | none => rfl

/-- A statement is a block that may not run where it is. -/
def Statement.isExcluded (p : Provision) (inside : Bool) : Statement → Bool
  | .selection _ attributes _ _ => p.excludes inside attributes
  | _ => false

/-! ## Pruning -/

mutual

/-- A statement, inside a block or not, without the blocks in it that may not run. Functions and
closures hold no blocks. -/
def Statement.prune (p : Provision) (inside : Bool) : Statement → Statement
  | .conditional loc branches => .conditional loc (branches.prune p inside)
  | .forRange loc name first last end_ body =>
    .forRange loc name first last end_ (Statement.pruneIn p inside body)
  | .forEach loc key name iterable body =>
    .forEach loc key name iterable (Statement.pruneIn p inside body)
  | .whileTrue loc condition body => .whileTrue loc condition (Statement.pruneIn p inside body)
  | .selection loc attributes selector body =>
    .selection loc attributes selector (Statement.pruneIn p true body)
  | .mixin loc name params body => .mixin loc name params (Statement.pruneIn p true body)
  | s => s

/-- Statements without the blocks among them and in them that may not run. -/
def Statement.pruneIn (p : Provision) (inside : Bool) : List Statement → List Statement
  | [] => []
  | s :: rest =>
    if s.isExcluded p inside then Statement.pruneIn p inside rest
    else s.prune p inside :: Statement.pruneIn p inside rest

/-- Branches without the blocks in them that may not run. -/
def Branches.prune (p : Provision) (inside : Bool) : Branches → Branches
  | .nothing => .nothing
  | .otherwise body => .otherwise (Statement.pruneIn p inside body)
  | .when loc condition body rest =>
    .when loc condition (Statement.pruneIn p inside body) (rest.prune p inside)

end

/-- A routine without the blocks in it that may not run. -/
def Routine.prune (p : Provision) (inside : Bool) (r : Routine) : Routine :=
  { r with body := Statement.pruneIn p inside r.body }

/-- A document without the blocks in it that may not run. -/
def Patch.prune (p : Provision) (patch : Patch) : Patch :=
  { patch with statements := Statement.pruneIn p false patch.statements }

/-! ## Pruned tables -/

namespace Table

variable {α β : Type}

/-- Another thing under each name. -/
def change (f : α → β) (t : Table α) : Table β :=
  t.map fun (name, x) => (name, f x)

/-- A changed table finds the changed thing under each name. -/
theorem get?_change (f : α → β) (t : Table α) (name : String) :
    get? (t.change f) name = (get? t name).map f := by
  induction t with
  | nil => rfl
  | cons e rest ih =>
    obtain ⟨k, x⟩ := e
    by_cases hk : k = name
    · simp [change, get?, hk]
    · simpa [change, get?, hk] using ih

/-- A table is changed before an entry is made or behind it. -/
theorem change_insert (f : α → β) (t : Table α) (name : String) (x : α) :
    (insert t name x).change f = insert (t.change f) name (f x) := by
  induction t with
  | nil => rfl
  | cons e rest ih =>
    obtain ⟨k, y⟩ := e
    by_cases hk : k = name
    · simp [change, insert, hk]
    · simpa [change, insert, hk] using ih

end Table

/-- What a run is provided with, where no block is left in mixins and libraries that may not run.
What is provided to a run is what decides that. -/
def Provision.prune (p : Provision) : Provision :=
  { p with registry := { p.registry with
      mixins := p.registry.mixins.change (Routine.prune p true)
      libraries := p.registry.libraries.change (Patch.prune p) } }

section

variable (p : Provision)

theorem Provision.settings_prune : p.prune.settings = p.settings :=
  rfl

/-- A mixin is found without the blocks in it that may not run; those in it are inside a block. -/
theorem Provision.mixin?_prune (name : String) :
    p.prune.registry.mixin? name = (p.registry.mixin? name).map (Routine.prune p true) :=
  Table.get?_change _ _ name

/-- So is a library, whose blocks are inside no other. -/
theorem Provision.library?_prune (name : String) :
    p.prune.registry.library? name = (p.registry.library? name).map (Patch.prune p) :=
  Table.get?_change _ _ name

/-- The same blocks may run. -/
theorem Run.isWanted_prune (attributes : List Attribute) (inside : Bool) :
    isWanted p.prune attributes inside = isWanted p attributes inside :=
  rfl

end

/-! ## Functions hold no blocks -/

section

variable (p : Provision) (inside : Bool)

mutual

/-- Nothing is taken from a statement of a function. The cases follow the statement; selections and
mixins are not of a function, and what is no block is kept as it is. -/
theorem Statement.prune_of_functional : ∀ s : Statement, s.Every Level.function.Admits →
    s.prune p inside = s
  | .declare _ _ _, _ | .ret _ _, _ | .set _ _, _ | .delete _, _ | .merge _ _, _
  | .field _ _ _ _, _ | .includeMixin _ _ _, _ | .expression _ _, _ | .importLibrary _ _, _
  | .stage _ _ _, _ | .function _ _ _ _, _ | .error _ _, _ => rfl
  | .conditional loc branches, h =>
    congrArg (Statement.conditional loc) (branches.prune_of_functional h.2)
  | .forRange loc name first last end_ body, h =>
    congrArg (Statement.forRange loc name first last end_)
      (Statement.pruneIn_of_functional body h.2.2.2)
  | .forEach loc key name iterable body, h =>
    congrArg (Statement.forEach loc key name iterable) (Statement.pruneIn_of_functional body h.2.2)
  | .whileTrue loc condition body, h =>
    congrArg (Statement.whileTrue loc condition) (Statement.pruneIn_of_functional body h.2.2)
  | .selection _ _ _ _, h | .mixin _ _ _ _, h => by cases h.1

theorem Statement.pruneIn_of_functional : ∀ body : List Statement,
    Statement.EveryIn Level.function.Admits body → Statement.pruneIn p inside body = body
  | [], _ => rfl
  | s :: rest, h => by
    have hexcluded : ¬ s.isExcluded p inside = true := by
      cases s with
      | selection => cases h.1.1
      | _ => nofun
    rw [Statement.pruneIn, if_neg hexcluded, s.prune_of_functional h.1,
      Statement.pruneIn_of_functional rest h.2]

theorem Branches.prune_of_functional : ∀ branches : Branches,
    branches.Every Level.function.Admits → branches.prune p inside = branches
  | .nothing, _ => rfl
  | .otherwise body, h => congrArg Branches.otherwise (Statement.pruneIn_of_functional body h)
  | .when loc condition body rest, h => by
    rw [Branches.prune, Statement.pruneIn_of_functional body h.2.1,
      rest.prune_of_functional h.2.2]

end

/-- So nothing is taken from a function. -/
theorem Routine.prune_of_functional {r : Routine} (h : r.Every Level.function.Admits) :
    r.prune p inside = r := by
  rw [prune, Statement.pruneIn_of_functional p inside r.body h.body]

end

end Graft
