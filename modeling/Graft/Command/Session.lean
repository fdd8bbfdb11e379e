import Graft.Command.Help
import Graft.Job
import Graft.Settings.Reader

/-!
Sessions: carrying out what a command line asks for.

A session reaches the outside through its surroundings only, and ends in a response: a
code, what goes to the output, and what is complained about. A complaint is a message with
the causes behind it.
-/

set_option autoImplicit false

namespace Graft.Command

/-- What a session can reach outside of itself. What cannot be read is given by the reason
in words. -/
structure Surroundings (m : Type → Type) where
  file : String → m (Except String String)
  /-- The text that is fed to the program, unless it is left to somebody at a terminal. -/
  input : m (Option (Except String String))

/-- How a session ends. -/
structure Response where
  code : Nat
  output : String
  complaint : String
  deriving Repr, DecidableEq

/-! ## Complaints -/

/-- A message and the causes behind it, the nearest first. -/
structure Complaint where
  message : String
  causes : List String
  deriving Repr, DecidableEq

namespace Complaint

/-- A cause behind a first mark, with its further lines indented as far. -/
def cause (mark : String) (text : String) : String :=
  let margin := String.ofList (List.replicate mark.length ' ')
  mark ++ ("\n" ++ margin).intercalate (text.splitOn "\n")

/-- Causes with their numbers. -/
def numbered (n : Nat) : List String → List String
  | [] => []
  | text :: rest => cause ("    " ++ Numeral.decimal n ++ ": ") text :: numbered (n + 1) rest

/-- The complaint as it is printed. A single cause has no number. -/
def text (c : Complaint) : String :=
  let lines := match c.causes with
    | [] => []
    | [single] => ["", "Caused by:", cause "    " single]
    | causes => "" :: "Caused by:" :: numbered 0 causes
  "\n".intercalate (("Error: " ++ c.message) :: lines) ++ "\n"

/-- The complaint about a file. -/
def ofFile (path reason : String) : Complaint :=
  ⟨"IO error reading " ++ path ++ ": " ++ reason, [reason]⟩

/-- The complaint about a settings file. -/
def ofSettings (path : String) (e : SettingsError) : Complaint :=
  ⟨e.message (some path), e.reason?.toList⟩

/-- The complaint about a job, which happened while something was done. -/
def ofJob (doing : String) (e : JobError) : Complaint :=
  ⟨doing, e.message :: e.reason?.toList⟩

end Complaint

/-- The response of a session that has done what was asked. -/
def Response.done (output : String) : Response := ⟨0, output, ""⟩

/-- The response of a session that ends with a complaint. -/
def Response.refused (output : String) (c : Complaint) : Response := ⟨1, output, c.text⟩

/-- The response where the arguments make no sense. -/
def Response.misused : Response := ⟨2, "", usageText⟩

/-- The response of a program that comes to an abrupt end. -/
def Response.crashed : Response := ⟨101, "", ""⟩

/-! ## The commands -/

/-- The response to a patch that is checked. -/
def checkText (path text : String) : Response :=
  match Review.ofText? text with
  | none => .refused "" (.ofJob ("checking " ++ path) .unreadablePatch)
  | some review =>
    let output := String.join (review.diagnostics.map fun d => d.text ++ "\n")
    if review.isClean then .done (output ++ "Patch is valid\n")
    else .refused output
      ⟨Numeral.decimal review.diagnostics.length ++ " syntax error(s) in " ++ path, []⟩

/-- The response to a job. -/
def performJob (path : String) (pretty : Bool) (job : Job) : Response :=
  match job.perform with
  | .ok result =>
    .done ((if pretty then result.tree.indented else result.tree.compact) ++ "\n")
  | .error (.halted .trapped) => .crashed
  | .error (.halted .exhausted) => .crashed
  | .error e => .refused "" (.ofJob ("applying " ++ path) e)

section

variable {m : Type → Type} [Monad m]

/-- The text of a file. -/
def textOf (w : Surroundings m) (path : String) : ExceptT Complaint m String := do
  match ← w.file path with
  | .ok text => return text
  | .error reason => throw (.ofFile path reason)

/-- The settings of a run: those of a file, if one is named, with the stage that is asked
for. -/
def settingsOf (w : Surroundings m) (config stage : Option String) :
    ExceptT Complaint m Settings := do
  let settings ← match config with
    | none => pure Settings.standard
    | some path =>
      match Settings.loadFile (← w.file path) with
      | .ok s => pure s
      | .error e => throw (.ofSettings path e)
  return { settings with stage := stage.or settings.stage }

/-- The text of the tree: that of a file, if one is named, or what is fed to the program. -/
def treeOf (w : Surroundings m) (tree : Option String) : ExceptT Complaint m (Option String) := do
  match tree with
  | some path => return some (← textOf w path)
  | none =>
    match ← w.input with
    | none => return none
    | some (.ok text) => return some text
    | some (.error reason) => throw ⟨"reading element tree from stdin", [reason]⟩

/-- What is to be done about a request. -/
def carryOut (w : Surroundings m) : Request → ExceptT Complaint m Response
  | .help topic => return .done topic.text
  | .version => return .done versionText
  | .check path => return checkText path (← textOf w path)
  | .run path tree config stage pretty => do
    let settings ← settingsOf w config stage
    let tree ← treeOf w tree
    let patch ← textOf w path
    return performJob path pretty ⟨patch, tree, settings⟩

/-- The response to a command line. -/
def respond (w : Surroundings m) (arguments : List String) : m Response := do
  match request? arguments with
  | none => return .misused
  | some request =>
    match ← (carryOut w request).run with
    | .ok response => return response
    | .error complaint => return .refused "" complaint

end

end Graft.Command
