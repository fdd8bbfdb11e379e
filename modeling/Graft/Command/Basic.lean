/-!
The command line: its options, and what a list of arguments asks for.

Arguments are read from the left, and the first thing that decides does so: a request for
help is granted although what follows it makes no sense, but not behind a mistake. Options
have a long and a short name. Short ones without a value can share a dash, and a value
stands behind its option, with or without an equals sign, or is the next argument. Behind
a bare double dash there are no options. No option is given twice, except for the one that
counts.
-/

set_option autoImplicit false

namespace Graft.Command

/-- An option. -/
inductive Switch where
  /-- Asks for a log. It can be repeated; no log is written. -/
  | verbose
  | help
  | version
  | tree
  | config
  | stage
  | pretty
  deriving Repr, DecidableEq

namespace Switch

/-- The long name, behind two dashes. -/
def long : Switch → String
  | verbose => "verbose"
  | help => "help"
  | version => "version"
  | tree => "tree"
  | config => "config"
  | stage => "stage"
  | pretty => "pretty"

/-- The short name, behind one dash. -/
def short : Switch → Char
  | verbose => 'v'
  | help => 'h'
  | version => 'V'
  | tree => 't'
  | config => 'c'
  | stage => 's'
  | pretty => 'p'

/-- Whether the option has a value. -/
def takesValue : Switch → Bool
  | tree => true
  | config => true
  | stage => true
  | _ => false

/-- The options before the name of a command. -/
def ofProgram : List Switch := [verbose, help, version]

/-- The options of the command that checks a patch. -/
def ofCheck : List Switch := [verbose, help]

/-- The options of the command that runs a patch. -/
def ofRun : List Switch := [tree, verbose, config, stage, pretty, help]

end Switch

/-! ## Arguments as tokens -/

/-- What an argument, or a part of one, is to a command. -/
inductive Token where
  | flag (s : Switch)
  | setting (s : Switch) (value : String)
  | operand (text : String)
  /-- An option that the command does not have, or one that is not used as it should be. -/
  | mistake
  deriving Repr, DecidableEq

/-- An argument is an option when it begins with a dash and goes on. -/
def isOption (argument : String) : Bool :=
  argument.startsWith "-" && argument ≠ "-"

/-- The tokens of a long option, without its dashes, and how many of the arguments behind
it belong to it. -/
def longTokens (available : List Switch) (body : String) (next : Option String) :
    List Token × Nat :=
  let cs := body.toList
  let name := String.ofList (cs.takeWhile (· ≠ '='))
  let value := match cs.dropWhile (· ≠ '=') with
    | [] => none
    | _ :: v => some (String.ofList v)
  match available.find? fun s => s.long = name, value with
  | none, _ => ([.mistake], 0)
  | some s, some v => if s.takesValue then ([.setting s v], 0) else ([.mistake], 0)
  | some s, none =>
    if !s.takesValue then ([.flag s], 0)
    else match next.filter (!isOption ·) with
      | some v => ([.setting s v], 1)
      | none => ([.mistake], 0)

/-- The tokens of short options behind one dash, and how many of the arguments behind them
belong to the last one. -/
def shortTokens (available : List Switch) (next : Option String) : List Char → List Token × Nat
  | [] => ([], 0)
  | c :: rest =>
    match available.find? fun s => s.short = c with
    | none => ([.mistake], 0)
    | some s =>
      if !s.takesValue then
        let (tokens, taken) := shortTokens available next rest
        (.flag s :: tokens, taken)
      else match rest, next.filter (!isOption ·) with
        | '=' :: v, _ => ([.setting s (String.ofList v)], 0)
        | v@(_ :: _), _ => ([.setting s (String.ofList v)], 0)
        | [], some v => ([.setting s v], 1)
        | [], none => ([.mistake], 0)

/-- The tokens of arguments, where the first `skip` of them have been taken already. -/
def tokensFrom (available : List Switch) : (skip : Nat) → List String → List Token
  | _, [] => []
  | skip + 1, _ :: rest => tokensFrom available skip rest
  | 0, argument :: rest =>
    match argument.toList with
    | ['-', '-'] => rest.map .operand
    | '-' :: '-' :: body =>
      let (tokens, taken) := longTokens available (String.ofList body) rest.head?
      tokens ++ tokensFrom available taken rest
    | '-' :: body@(_ :: _) =>
      let (tokens, taken) := shortTokens available rest.head? body
      tokens ++ tokensFrom available taken rest
    | _ => .operand argument :: tokensFrom available 0 rest

/-- The tokens of arguments. -/
def tokens (available : List Switch) (arguments : List String) : List Token :=
  tokensFrom available 0 arguments

/-! ## What is asked for -/

/-- What tokens say to a command. -/
structure Arguments where
  patch : Option String
  tree : Option String
  config : Option String
  stage : Option String
  pretty : Bool
  deriving Repr, DecidableEq

/-- Nothing has been said yet. -/
def Arguments.none : Arguments := ⟨.none, .none, .none, .none, false⟩

/-- What there is help about. -/
inductive Topic where
  | program
  | check
  | run
  | help
  deriving Repr, DecidableEq

/-- What a command line asks for. -/
inductive Request where
  | help (topic : Topic)
  | version
  | check (patch : String)
  | run (patch : String) (tree config stage : Option String) (pretty : Bool)
  deriving Repr, DecidableEq

/-- A name of a file is given once and not empty. -/
def fileOnce? (known : Option String) (name : String) : Option String :=
  if known.isSome || name.isEmpty then none else some name

/-- What tokens say, after what is known. A request for help ends the reading. -/
def collect? (topic : Topic) (finish : Arguments → Option Request) :
    Arguments → List Token → Option Request
  | a, [] => finish a
  | a, token :: rest =>
    let proceed (a : Arguments) := collect? topic finish a rest
    match token with
    | .flag .help => some (.help topic)
    | .flag .version => some .version
    | .flag .verbose => proceed a
    | .flag .pretty => if a.pretty then none else proceed { a with pretty := true }
    | .setting .tree v => (fileOnce? a.tree v).bind fun v => proceed { a with tree := some v }
    | .setting .config v => (fileOnce? a.config v).bind fun v => proceed { a with config := some v }
    | .setting .stage v => if a.stage.isSome then none else proceed { a with stage := some v }
    | .operand v => (fileOnce? a.patch v).bind fun v => proceed { a with patch := some v }
    | _ => none

/-- The request of a command that checks, from the arguments behind its name. -/
def checkRequest? (arguments : List String) : Option Request :=
  collect? .check (fun a => a.patch.map .check) .none (tokens Switch.ofCheck arguments)

/-- The request of a command that runs, from the arguments behind its name. -/
def runRequest? (arguments : List String) : Option Request :=
  collect? .run (fun a => a.patch.map fun p => .run p a.tree a.config a.stage a.pretty) .none
    (tokens Switch.ofRun arguments)

/-- The request for help about a command. -/
def helpRequest? : List String → Option Request
  | [] => some (.help .program)
  | ["check"] => some (.help .check)
  | ["run"] => some (.help .run)
  | ["help"] => some (.help .help)
  | _ => none

/-- The request of a command line, or `none` if it makes no sense. -/
def request? : List String → Option Request
  | [] => none
  | argument :: rest =>
    if !isOption argument then
      match argument with
      | "check" => checkRequest? rest
      | "run" => runRequest? rest
      | "help" => helpRequest? rest
      | _ => none
    else if argument = "--" then none
    else collect? .program (fun _ => request? rest) .none (tokens Switch.ofProgram [argument])

example : request? ["-v", "run", "-pt", "t.json", "p.json"] =
    some (.run "p.json" (some "t.json") none none true) := by decide +kernel
example : request? ["run", "p.json", "-t", "--pretty"] = none := by decide +kernel

end Graft.Command
