import Graft.Number.Numeral

/-!
Places in patch documents, and diagnostics about them.
-/

set_option autoImplicit false

namespace Graft

/-- A place in a document. -/
structure Coordinate where
  file : String
  line : Nat
  column : Nat
  deriving Repr, DecidableEq

/-- The place of what has none: a document without a name, before its first line. -/
def Coordinate.origin : Coordinate := ⟨"", 0, 0⟩

instance : Inhabited Coordinate := ⟨.origin⟩

/-- A place as messages give it. -/
def Coordinate.text (c : Coordinate) : String :=
  (if c.file.isEmpty then "<input>" else c.file) ++ ":" ++ Numeral.decimal c.line ++ ":" ++
    Numeral.decimal c.column

/-- The classes of trouble that can be reported. -/
inductive Trouble where
  | malformed
  | resolution
  | type
  | arity
  | hostRejection
  | limit
  | divisionByZero
  deriving Repr, DecidableEq

/-- The class as diagnostics name it. -/
def Trouble.text : Trouble → String
  | malformed => "syntax error"
  | resolution => "resolution error"
  | type => "type error"
  | arity => "arity error"
  | hostRejection => "host rejection"
  | limit => "limit exceeded"
  | divisionByZero => "division by zero"

/-- A report about a place. -/
structure Diagnostic where
  trouble : Trouble
  loc : Coordinate
  message : String
  deriving Repr, DecidableEq

/-- A diagnostic on one line. -/
def Diagnostic.text (d : Diagnostic) : String :=
  d.loc.text ++ ": " ++ d.trouble.text ++ ": " ++ d.message

end Graft
