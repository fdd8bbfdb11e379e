import Graft.Settings.Basic
import Graft.Toml.Reader

/-!
Reading settings.

Settings are a record of records, and what a record leaves out has its standard value. A
key that settings do not have is refused, so that a slip of the pen is noticed. Settings
that can be read may still be at fault.
-/

set_option autoImplicit false

namespace Graft

/-- The parts of a record without other keys. Instead, the parts may stand in order in
a list, which may go on behind the last one where the reading is `loose`. -/
def Json.exactRecord? (loose : Bool) (keys : List String) : Json → Option (List (Option Json))
  | object members =>
    if members.all fun m => keys.contains m.1 then parts? keys (object members) else none
  | array items => record? keys (array (if loose then items.take keys.length else items))
  | _ => none

/-- Limits, where some may be left out. -/
def Limits.ofJson? (loose : Bool) (j : Json) : Option Limits := do
  let keys := ["max_loop_iterations", "max_call_depth", "max_ruleset_depth"]
  match ← j.exactRecord? loose keys with
  | [loops, calls, rulesets] =>
    return {
      maxLoopIterations := ← Json.default? standard.maxLoopIterations Json.nat? loops
      maxCallDepth := ← Json.default? standard.maxCallDepth Json.nat? calls
      maxRulesetDepth := ← Json.default? standard.maxRulesetDepth Json.nat? rulesets }
  | _ => none

/-- Field conventions, where some may be left out. -/
def FieldConventions.ofJson? (loose : Bool) (j : Json) : Option FieldConventions := do
  match ← j.exactRecord? loose ["type_key", "class_key"] with
  | [type, class_] =>
    return {
      typeKey := ← Json.default? standard.typeKey Json.text? type
      classKey := ← Json.default? standard.classKey Json.text? class_ }
  | _ => none

namespace Settings

/-- The settings of a JSON value. -/
def ofJson? (loose : Bool) (j : Json) : Option Settings := do
  match ← j.exactRecord? loose ["active_mods", "stage", "limits", "fields"] with
  | [mods, stage, limits, fields] =>
    return {
      activeMods := ← Json.default? [] (fun j => do (← j.items?).mapM Json.text?) mods
      stage := ← Json.optional? Json.text? stage
      limits := ← Json.default? .standard (Limits.ofJson? loose) limits
      fields := ← Json.default? .standard (FieldConventions.ofJson? loose) fields }
  | _ => none

/-- The settings of a TOML text. -/
def ofToml? (text : String) : Option Settings := do
  ofJson? true (.object (Toml.entriesToJson (← Toml.parse? text)))

end Settings

/-- Why settings cannot be had. -/
inductive SettingsError where
  /-- The file cannot be read, for the reason in words. -/
  | noFile (reason : String)
  | unreadable
  | invalid (fault : SettingsFault)
  deriving Repr, DecidableEq

namespace SettingsError

/-- What lies behind the error, if anything does. -/
def reason? : SettingsError → Option String
  | noFile reason => some reason
  | unreadable => some "the text does not describe settings"
  | invalid _ => none

/-- The error in words, with the place that the settings come from. -/
def message (path : Option String) (e : SettingsError) : String :=
  let place := match path with
    | some p => " (" ++ p ++ ")"
    | none => ""
  match e with
  | noFile reason => "failed to read settings from " ++ path.getD "" ++ ": " ++ reason
  | unreadable =>
    "failed to parse settings TOML" ++ place ++ ": the text does not describe settings"
  | invalid fault => "invalid settings" ++ place ++ ": " ++ fault.message

end SettingsError

namespace Settings

/-- The settings, unless they are at fault. -/
def checked (s : Settings) : Except SettingsError Settings :=
  match s.fault? with
  | some fault => .error (.invalid fault)
  | none => .ok s

/-- The settings of a TOML text that are not at fault. -/
def load (text : String) : Except SettingsError Settings :=
  match ofToml? text with
  | some s => s.checked
  | none => .error .unreadable

/-- The settings of a file, which is given by its text or by the reason why it has none. -/
def loadFile (file : Except String String) : Except SettingsError Settings :=
  match file with
  | .ok text => load text
  | .error reason => .error (.noFile reason)

end Settings

end Graft
