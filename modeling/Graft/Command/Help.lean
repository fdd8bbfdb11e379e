import Graft.Command.Basic

/-!
What the program says about itself.
-/

set_option autoImplicit false

namespace Graft.Command

/-- The name of the program. -/
def programName : String := "sprig"

/-- The version of the program. -/
def versionNumber : String := "0.2.0"

/-- What each option is for. -/
def Switch.purpose : Switch → String
  | verbose => "Increase log verbosity (-v debug, -vv trace)"
  | help => "Print help"
  | version => "Print version"
  | tree => "Element tree JSON (reads from stdin if not provided)"
  | config => "Settings TOML"
  | stage => "Only run blocks tagged with this stage"
  | pretty => "Pretty-print the output"

/-- An option as lists of options show it. -/
def Switch.shown (s : Switch) : String :=
  "-" ++ s.short.toString ++ ", --" ++ s.long ++
    match s with
    | verbose => "..."
    | tree => " <TREE>"
    | config => " <CONFIG>"
    | stage => " <STAGE>"
    | _ => ""

/-- What a topic is about. -/
def Topic.about : Topic → String
  | program => "Sprig - a patch language for editing hierarchical host documents"
  | check => "Transform a parse tree and report its diagnostics"
  | run => "Apply a patch to an element tree and print the result"
  | help => "Print this message or the help of the given subcommand(s)"

/-- How a command is called. -/
def Topic.usage : Topic → String
  | program => programName ++ " [OPTIONS] <COMMAND>"
  | check => programName ++ " check [OPTIONS] <PATCH>"
  | run => programName ++ " run [OPTIONS] <PATCH>"
  | help => programName ++ " help [COMMAND]..."

/-- Names with their explanations, which start in one column. -/
def twoColumns (rows : List (String × String)) : List String :=
  let width := (rows.map fun row => row.1.length).foldl max 0
  rows.map fun (name, text) =>
    "  " ++ name ++ String.ofList (List.replicate (width - name.length) ' ') ++ "  " ++ text

/-- A titled part of a help text, behind an empty line. -/
def titled (title : String) (rows : List (String × String)) : List String :=
  "" :: title :: twoColumns rows

/-- The parts of a help text behind the usage. -/
def Topic.parts : Topic → List String
  | program =>
    titled "Commands:" [("check", about check), ("run", about run), ("help", about help)] ++
      options [.verbose, .help, .version]
  | check => patch ++ options [.verbose, .help]
  | run => patch ++ options Switch.ofRun
  | help => titled "Arguments:" [("[COMMAND]...", "Print help for the subcommand(s)")]
where
  patch := titled "Arguments:" [("<PATCH>", "Parse tree JSON produced by the grammar layer")]
  options (switches : List Switch) :=
    titled "Options:" (switches.map fun s => (s.shown, s.purpose))

/-- The help text of a topic. -/
def Topic.text (t : Topic) : String :=
  "\n".intercalate ([t.about, "", "Usage: " ++ t.usage] ++ t.parts) ++ "\n"

/-- What is said about the version. -/
def versionText : String :=
  programName ++ " " ++ versionNumber ++ "\n"

/-- What is said where a command line makes no sense. -/
def usageText : String :=
  "error: the arguments make no sense\n\nUsage: " ++ Topic.usage .program ++
    "\n\nFor more information, try '--help'.\n"

end Graft.Command
