import Graft.CharProperty.Break
import Graft.Text.Casing

/-!
How characters behave under the case maps, in version 16 of Unicode.

The case maps of texts may know more pairs of letters. A pair counts here if both of its
letters are assigned.
-/

set_option autoImplicit false

namespace Graft.CharProperty

/-- Characters that the search for a cased letter passes over. -/
def caseIgnorable : CharSet :=
  .unions [Category.setOf [.mn, .me, .cf, .lm, .sk], WordBreak.midLetter, WordBreak.midNumLet,
    WordBreak.singleQuote]

/-- The characters that a run of the case maps holds, as ranges. -/
def rangesOfCaseRun (run : Text.CaseRun) : List (Nat × Nat) :=
  let (first, last, step, image) := run
  (List.range ((last - first) / step + 1)).filterMap fun i =>
    let code := first + step * i
    if assigned.containsCode code && assigned.containsCode (image + step * i) then
      some (code, code + 1)
    else none

/-- The characters that runs of the case maps hold. -/
def setOfCaseRuns (runs : List Text.CaseRun) : CharSet :=
  .ofRanges (runs.flatMap rangesOfCaseRun)

/-- Characters that lower case changes. -/
def changesWhenLowercased : CharSet :=
  .unions [⟨#[0x41, 0x5b]⟩, ⟨#[0x130, 0x131]⟩, setOfCaseRuns Text.lowerRuns]

/-- Characters that upper case changes. -/
def changesWhenUppercased : CharSet :=
  let expanded := Text.upperExpansions.map fun (code, _) => (code, code + 1)
  .unions [⟨#[0x61, 0x7b]⟩, .ofRanges expanded, setOfCaseRuns Text.upperRuns]

/-- Characters that title case changes: those that upper case changes and letters in upper
case that stand for two, but neither letters in title case nor those of Georgian texts. -/
def changesWhenTitlecased : CharSet :=
  (changesWhenUppercased.union
    ⟨#[0x1c4, 0x1c5, 0x1c7, 0x1c8, 0x1ca, 0x1cb, 0x1f1, 0x1f2]⟩).diff
      ((Category.setOf [.lt]).union ⟨#[0x10d0, 0x1100]⟩)

/-- Characters that some case map changes. -/
def changesWhenCasemapped : CharSet :=
  .unions [changesWhenLowercased, changesWhenUppercased, changesWhenTitlecased]

/-- Characters that folding changes although lower case does not. -/
def foldedApart : CharSet where
  bounds := #[
    0xb5, 0xb6, 0xdf, 0xe0, 0x149, 0x14a, 0x17f, 0x180, 0x345, 0x346, 0x3c2, 0x3c3, 0x3d0, 0x3d2,
    0x3d5, 0x3d7, 0x3f0, 0x3f2, 0x3f5, 0x3f6, 0x587, 0x588, 0x13f8, 0x13fe, 0x1c80, 0x1c89, 0x1e9a,
    0x1e9c, 0x1f80, 0x1f88, 0x1f90, 0x1f98, 0x1fa0, 0x1fa8, 0x1fb2, 0x1fb5, 0x1fb7, 0x1fb8, 0x1fc2,
    0x1fc5, 0x1fc7, 0x1fc8, 0x1ff2, 0x1ff5, 0x1ff7, 0x1ff8, 0xab70, 0xabc0, 0xfb00, 0xfb07, 0xfb13,
    0xfb18]

/-- Characters that folding changes: as a rule those that lower case changes, but Cherokee
letters are folded to upper case. -/
def changesWhenCasefolded : CharSet :=
  (changesWhenLowercased.diff ⟨#[0x13a0, 0x13f6]⟩).union foldedApart

end Graft.CharProperty
