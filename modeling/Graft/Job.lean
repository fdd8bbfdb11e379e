import Graft.Draft.Reader
import Graft.Patch.OfDraft
import Graft.Run.Execute

/-!
Jobs: a patch text applied to a tree text.

A job first reviews its patch: a patch that cannot be read, or that has a problem, is not
applied, and the tree is not even looked at. A type that occurs in the tree can also be
added to it, and what is added starts as an empty object.
-/

set_option autoImplicit false

namespace Graft

/-- A patch with what there is to say about it. -/
structure Review where
  patch : Patch
  diagnostics : List Diagnostic

namespace Review

/-- The review of a draft. -/
def ofDraft (d : Draft) : Review :=
  ⟨Patch.ofDraft d, d.problems.map fun p => p.diagnostic⟩

/-- The review of a patch text, unless it cannot be read. -/
def ofText? (text : String) : Option Review :=
  (Draft.parse? text).map ofDraft

/-- Nothing is wrong with the patch. -/
def isClean (r : Review) : Bool :=
  r.diagnostics.isEmpty

end Review

/-- Why a job fails. -/
inductive JobError where
  | unreadablePatch
  | faultyPatch (diagnostics : List Diagnostic)
  | noTree
  | unreadableTree
  /-- The types of the tree are no kinds of elements. -/
  | refusedTree (error : HostError)
  | halted (halt : Halt)
  deriving Repr, DecidableEq

namespace JobError

/-- What lies behind the error, if anything does. -/
def reason? : JobError → Option String
  | unreadablePatch => some "the text does not describe a patch"
  | unreadableTree => some "the text does not describe an element tree"
  | refusedTree error => some error.message
  | halted (.failed failure) =>
    match failure.cause.hostError? with
    | some error => some error.message
    | none => none
  | _ => none

/-- The error in words. An abrupt end of the program has none. -/
def message : JobError → String
  | unreadablePatch => "Invalid parse tree JSON: the text does not describe a patch"
  | faultyPatch diagnostics =>
    "patch has " ++ Numeral.decimal diagnostics.length ++ " syntax error(s):\n" ++
      "\n".intercalate (diagnostics.map fun d => "  " ++ d.text)
  | noTree => "No element tree provided. Use --tree or pipe JSON to stdin."
  | unreadableTree => "Invalid element tree JSON: the text does not describe an element tree"
  | refusedTree error => "invalid element tree: " ++ error.message
  | halted (.failed failure) => failure.text
  | halted .trapped => ""
  | halted .exhausted => ""

end JobError

/-- The kinds of some types, each of which starts as an empty object. -/
def Kinds.ofTypes (types : List String) : Except HostError Kinds :=
  types.foldlM (fun kinds type => kinds.register type (.object [])) []

/-- A patch, the tree to apply it to, and how to apply it. -/
structure Job where
  patch : String
  tree : Option String
  settings : Settings

/-- The tree after the patch, and what the run has done. -/
structure JobResult where
  tree : Description
  report : Report

/-- Reviews and applies the patch of a job. -/
def Job.perform (job : Job) : Except JobError JobResult := do
  let some review := Review.ofText? job.patch | throw .unreadablePatch
  unless review.isClean do throw (.faultyPatch review.diagnostics)
  let some text := job.tree | throw .noTree
  let some tree := Description.parse? text | throw .unreadableTree
  let kinds ← (Kinds.ofTypes tree.types).mapError .refusedTree
  let provision := ⟨Registry.withActiveMods job.settings.activeMods, job.settings⟩
  let (result, host) := review.patch.execute provision (Host.ofDescription kinds tree)
  let report ← result.mapError .halted
  return ⟨host.toDescription Host.root, report⟩

end Graft
