import Graft.Text.CharSet

/-!
Tables that give every code point a mark.

Such a table is an ascending list of runs. A run goes from its first code point to the next
run, or to the end of all code points, and is written as `radix * code + mark` with its
first code point and its mark.
-/

set_option autoImplicit false

namespace Graft.CharProperty.Runs

/-- The end of all code points. -/
def codeBound : Nat := 0x110000

/-- The ranges that are made of every run by its first code point, that of the next run and
its mark. -/
def flatMap (radix : Nat) (make : (first next mark : Nat) → List (Nat × Nat)) :
    List Nat → List (Nat × Nat)
  | [] => []
  | [run] => make (run / radix) codeBound (run % radix)
  | run :: next :: rest =>
    make (run / radix) (next / radix) (run % radix) ++ flatMap radix make (next :: rest)

/-- The ranges of the runs with some marks. -/
def marked (radix : Nat) (wanted : Nat → Bool) (runs : List Nat) : List (Nat × Nat) :=
  flatMap radix (fun first next mark => if wanted mark then [(first, next)] else []) runs

end Graft.CharProperty.Runs
