/-!
Finding texts in texts, and cutting texts at separators.

Separators are found from the left and do not overlap: after one, the search goes on
behind it. The empty separator cuts between all characters.
-/

set_option autoImplicit false

namespace Graft.Text

/-- Whether `part` stands somewhere in a list of characters. -/
def occursIn (part : List Char) : List Char → Bool
  | [] => part.isEmpty
  | c :: rest => part.isPrefixOf (c :: rest) || occursIn part rest

/-- Whether a text stands somewhere in another. -/
def contains (s part : String) : Bool :=
  occursIn part.toList s.toList

/-- Whether a text begins with another. -/
def startsWith (s part : String) : Bool :=
  part.toList.isPrefixOf s.toList

/-- Whether a text ends with another. -/
def endsWith (s part : String) : Bool :=
  part.toList.isSuffixOf s.toList

/-- The parts between the separators, where `skip` characters still belong to a separator
and `part` holds, in reverse, what has been read of the current part. -/
def cutFrom (separator : List Char) : (skip : Nat) → (part : List Char) → List Char →
    List (List Char)
  | _, part, [] => [part.reverse]
  | skip + 1, part, _ :: rest => cutFrom separator skip part rest
  | 0, part, c :: rest =>
    if separator.isPrefixOf (c :: rest) then
      part.reverse :: cutFrom separator (separator.length - 1) [] rest
    else cutFrom separator 0 (c :: part) rest

/-- The parts of a text between separators. -/
def split (s separator : String) : List String :=
  if separator.isEmpty then s.toList.map String.singleton
  else (cutFrom separator.toList 0 [] s.toList).map String.ofList

example : split "a,,b" "," = ["a", "", "b"] := by decide +kernel
example : split "aaa" "aa" = ["", "a"] := by decide +kernel
example : split "" "x" = [""] := by decide +kernel

end Graft.Text
