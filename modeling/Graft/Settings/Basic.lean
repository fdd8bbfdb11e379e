import Graft.Text.Blank

/-!
Settings of a run: the mods that are active, the stage to run, limits, and the keys by
which list items are addressed.

`Settings.fault?` finds what a settings file may not say. Settings that are put together by
hand are used as they are.
-/

set_option autoImplicit false

namespace Graft

/-- The bounds of a run. -/
structure Limits where
  /-- How often the body of one loop runs at most. -/
  maxLoopIterations : Nat
  /-- How many calls, inclusions and imports are under way at most. -/
  maxCallDepth : Nat
  /-- How deep rulesets refer to each other at most. -/
  maxRulesetDepth : Nat
  deriving Repr, DecidableEq

/-- The limits where nothing else is said. -/
def Limits.standard : Limits := ⟨100000, 256, 32⟩

/-- The keys of an item that hold its type and its class. -/
structure FieldConventions where
  typeKey : String
  classKey : String
  deriving Repr, DecidableEq

/-- The keys where nothing else is said. -/
def FieldConventions.standard : FieldConventions := ⟨"type", "class"⟩

/-- Settings of a run. -/
structure Settings where
  activeMods : List String
  stage : Option String
  limits : Limits
  fields : FieldConventions
  deriving Repr, DecidableEq

/-- The settings where nothing else is said. -/
def Settings.standard : Settings := ⟨[], none, .standard, .standard⟩

/-- What settings can be faulted for. -/
inductive SettingsFault where
  | noLoopIterations
  | noCallDepth
  | noRulesetDepth
  | blankTypeKey
  | blankClassKey
  | blankModName
  deriving Repr, DecidableEq

/-- The fault in words. -/
def SettingsFault.message : SettingsFault → String
  | noLoopIterations => "limits.max_loop_iterations must be greater than zero"
  | noCallDepth => "limits.max_call_depth must be greater than zero"
  | noRulesetDepth => "limits.max_ruleset_depth must be greater than zero"
  | blankTypeKey => "fields.type_key must not be empty"
  | blankClassKey => "fields.class_key must not be empty"
  | blankModName => "active_mods must not contain empty names"

/-- The first fault of settings, if they have one. -/
def Settings.fault? (s : Settings) : Option SettingsFault :=
  if s.limits.maxLoopIterations = 0 then some .noLoopIterations
  else if s.limits.maxCallDepth = 0 then some .noCallDepth
  else if s.limits.maxRulesetDepth = 0 then some .noRulesetDepth
  else if Text.isBlankText s.fields.typeKey then some .blankTypeKey
  else if Text.isBlankText s.fields.classKey then some .blankClassKey
  else if s.activeMods.any Text.isBlankText then some .blankModName
  else none

end Graft
