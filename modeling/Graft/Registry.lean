import Graft.Patch.Basic
import Graft.Text.Blank

/-!
The registry: what patches can refer to without defining it.

A registry holds rulesets, functions, mixins and libraries, each kind with names of its
own, and the set of active mods. A name is registered once; a later registration under the
same name is refused, and a refused registration changes nothing.
-/

set_option autoImplicit false

namespace Graft

/-- A function, closure or mixin: its parameters and its body. -/
structure Routine where
  params : List Param
  body : List Statement
  deriving Inhabited

/-- The kinds of things that are registered. -/
inductive RegistryKind where
  | ruleset
  | function
  | mixin
  | library
  deriving Repr, DecidableEq

/-- The kind as messages name it. -/
def RegistryKind.text : RegistryKind → String
  | ruleset => "ruleset"
  | function => "function"
  | mixin => "mixin"
  | library => "library"

/-- Why a registration is refused. -/
inductive RegistryError where
  /-- The name is blank. -/
  | emptyName (kind : RegistryKind)
  /-- The name is taken. -/
  | duplicate (kind : RegistryKind) (name : String)
  /-- A parameter without default follows one with a default. -/
  | defaultsNotTrailing (kind : RegistryKind) (name : String)
  /-- The library could not be read in full. -/
  | faultyLibrary (name : String)
  /-- The selector of the ruleset is invalid. -/
  | invalidRuleset (name : String)
  deriving Repr, DecidableEq

/-- The error in words. -/
def RegistryError.message : RegistryError → String
  | emptyName kind => kind.text ++ " name must not be empty"
  | duplicate kind name => kind.text ++ " '" ++ name ++ "' is already registered"
  | defaultsNotTrailing kind name =>
    kind.text ++ " '" ++ name ++
      "': arguments with default values must come after all required arguments"
  | faultyLibrary name => "library '" ++ name ++ "' has syntax errors"
  | invalidRuleset name => "ruleset '" ++ name ++ "' contains an invalid selector"

/-- What patches can refer to. -/
structure Registry where
  rulesets : Table Selector
  functions : Table Routine
  mixins : Table Routine
  libraries : Table Patch
  activeMods : List String
  deriving Inhabited

namespace Registry

/-- The registry that knows the active mods and nothing else. -/
def withActiveMods (mods : List String) : Registry :=
  ⟨[], [], [], [], mods⟩

/-- Makes a mod active. -/
def activateMod (r : Registry) (name : String) : Registry :=
  { r with activeMods := r.activeMods ++ [name] }

/-- Whether a mod is active. -/
def isModActive (r : Registry) (name : String) : Bool :=
  r.activeMods.contains name

/-- Whether the outermost node of a selector is an invalid one. -/
def isInvalid : Selector → Bool
  | .invalid _ _ => true
  | _ => false

/-- Registers a ruleset. -/
def registerRuleset (r : Registry) (name : String) (s : Selector) : Except RegistryError Registry :=
  if Text.isBlankText name then .error (.emptyName .ruleset)
  else if isInvalid s then .error (.invalidRuleset name)
  else if Table.has r.rulesets name then .error (.duplicate .ruleset name)
  else .ok { r with rulesets := Table.insert r.rulesets name s }

/-- Registers a function; one without a name counts as blank. -/
def registerFunction (r : Registry) (name : Option String) (f : Routine) :
    Except RegistryError Registry :=
  let name := name.getD ""
  if Text.isBlankText name then .error (.emptyName .function)
  else if !defaultsTrail f.params then .error (.defaultsNotTrailing .function name)
  else if Table.has r.functions name then .error (.duplicate .function name)
  else .ok { r with functions := Table.insert r.functions name f }

/-- Registers a mixin. -/
def registerMixin (r : Registry) (name : String) (m : Routine) : Except RegistryError Registry :=
  if Text.isBlankText name then .error (.emptyName .mixin)
  else if !defaultsTrail m.params then .error (.defaultsNotTrailing .mixin name)
  else if Table.has r.mixins name then .error (.duplicate .mixin name)
  else .ok { r with mixins := Table.insert r.mixins name m }

/-- Registers a library. -/
def registerLibrary (r : Registry) (name : String) (p : Patch) : Except RegistryError Registry :=
  if Text.isBlankText name then .error (.emptyName .library)
  else if p.faulty then .error (.faultyLibrary name)
  else if Table.has r.libraries name then .error (.duplicate .library name)
  else .ok { r with libraries := Table.insert r.libraries name p }

/-- The ruleset of a name. -/
def ruleset? (r : Registry) (name : String) : Option Selector := Table.get? r.rulesets name

/-- The function of a name. -/
def function? (r : Registry) (name : String) : Option Routine := Table.get? r.functions name

/-- The mixin of a name. -/
def mixin? (r : Registry) (name : String) : Option Routine := Table.get? r.mixins name

/-- The library of a name. -/
def library? (r : Registry) (name : String) : Option Patch := Table.get? r.libraries name

end Registry

end Graft
