import Graft.CharProperty.Age
import Graft.CharProperty.Break
import Graft.CharProperty.Case
import Graft.CharProperty.CaseFold
import Graft.CharProperty.Category
import Graft.CharProperty.Derived
import Graft.CharProperty.Emoji
import Graft.CharProperty.Listed
import Graft.CharProperty.Name
import Graft.CharProperty.Runs
import Graft.CharProperty.Script
import Graft.CharProperty.ScriptExtension
import Graft.Command.Basic
import Graft.Command.File
import Graft.Command.Help
import Graft.Command.Session
import Graft.Coordinate
import Graft.Draft.Basic
import Graft.Draft.Reader
import Graft.Host.Basic
import Graft.Host.Description
import Graft.Host.Snapshot
import Graft.Job
import Graft.Json.Basic
import Graft.Json.Reader
import Graft.Json.Writer
import Graft.Main
import Graft.Number.Binary64
import Graft.Number.Decimal
import Graft.Number.FloatText
import Graft.Number.Numeral
import Graft.Number.Power
import Graft.Number.Shortest
import Graft.Patch.Basic
import Graft.Patch.OfDraft
import Graft.Patch.Operator
import Graft.Pattern.Basic
import Graft.Pattern.CharClass
import Graft.Pattern.Escape
import Graft.Pattern.Flags
import Graft.Pattern.Look
import Graft.Pattern.Marked
import Graft.Pattern.Reader
import Graft.Pattern.Size
import Graft.Proofs.Host.Ancestry
import Graft.Proofs.Host.Description
import Graft.Proofs.Host.Footprint
import Graft.Proofs.Host.InPlace
import Graft.Proofs.Host.Kinds
import Graft.Proofs.Host.Loaded
import Graft.Proofs.Host.Marks
import Graft.Proofs.Host.Operation
import Graft.Proofs.Host.Protection
import Graft.Proofs.Host.Tree
import Graft.Proofs.Host.Walk
import Graft.Proofs.InPlace
import Graft.Proofs.Number.Numeral
import Graft.Proofs.Patch.Clean
import Graft.Proofs.Patch.Every
import Graft.Proofs.Patch.Levels
import Graft.Proofs.Patch.Placement
import Graft.Proofs.Patch.Prune
import Graft.Proofs.Patch.Survey
import Graft.Proofs.Registry.Invalid
import Graft.Proofs.Registry.Registration
import Graft.Proofs.Run.Aside
import Graft.Proofs.Run.Atomicity
import Graft.Proofs.Run.Attachment
import Graft.Proofs.Run.Binding
import Graft.Proofs.Run.Change
import Graft.Proofs.Run.Clean
import Graft.Proofs.Run.ClosureMethod
import Graft.Proofs.Run.Comparison
import Graft.Proofs.Run.Composition
import Graft.Proofs.Run.Conditional
import Graft.Proofs.Run.Confinement
import Graft.Proofs.Run.Deletion
import Graft.Proofs.Run.DeletionFree
import Graft.Proofs.Run.Depth
import Graft.Proofs.Run.Effect
import Graft.Proofs.Run.Ending
import Graft.Proofs.Run.Evolution
import Graft.Proofs.Run.Explanation
import Graft.Proofs.Run.Export
import Graft.Proofs.Run.Flow
import Graft.Proofs.Run.Footprint
import Graft.Proofs.Run.Frames
import Graft.Proofs.Run.Halting
import Graft.Proofs.Run.History
import Graft.Proofs.Run.Import
import Graft.Proofs.Run.InPlace
import Graft.Proofs.Run.Inclusion
import Graft.Proofs.Run.Isolation
import Graft.Proofs.Run.Kinds
import Graft.Proofs.Run.Limits
import Graft.Proofs.Run.ListMethod
import Graft.Proofs.Run.Mirror
import Graft.Proofs.Run.Mirroring
import Graft.Proofs.Run.Moment
import Graft.Proofs.Run.Nesting
import Graft.Proofs.Run.Protection
import Graft.Proofs.Run.Purity
import Graft.Proofs.Run.Range
import Graft.Proofs.Run.Return
import Graft.Proofs.Run.Skipping
import Graft.Proofs.Run.Slots
import Graft.Proofs.Run.Stages
import Graft.Proofs.Run.Termination
import Graft.Proofs.Run.Trap
import Graft.Proofs.Selector.Addition
import Graft.Proofs.Selector.Depth
import Graft.Proofs.Selector.Enumerate
import Graft.Proofs.Selector.Growth
import Graft.Proofs.Selector.Meaning
import Graft.Proofs.Selector.Outcome
import Graft.Proofs.Selector.Ruleset
import Graft.Proofs.Selector.Substitution
import Graft.Proofs.Selector.Valid
import Graft.Proofs.Table.Order
import Graft.Proofs.Text.Bytes
import Graft.Proofs.Text.Escape
import Graft.Proofs.Text.Quoted
import Graft.Proofs.Value.Alike
import Graft.Proofs.Value.DeletionFree
import Graft.Proofs.Value.Discrete
import Graft.Proofs.Value.Equality
import Graft.Proofs.Value.Independent
import Graft.Proofs.Value.Integer
import Graft.Proofs.Value.Json
import Graft.Proofs.Value.Layout
import Graft.Proofs.Value.Lens
import Graft.Proofs.Value.Literal
import Graft.Proofs.Value.Merge
import Graft.Proofs.Value.Ordered
import Graft.Proofs.Value.Reapplied
import Graft.Proofs.Value.Slot
import Graft.Proofs.Value.Unambiguous
import Graft.Proofs.Value.Writable
import Graft.Registry
import Graft.Run.Argument
import Graft.Run.Builtin
import Graft.Run.Evaluate
import Graft.Run.Execute
import Graft.Run.Failure
import Graft.Run.Machine
import Graft.Run.Scope
import Graft.Selector.Basic
import Graft.Selector.Match
import Graft.Settings.Basic
import Graft.Settings.Reader
import Graft.Table
import Graft.Text.Blank
import Graft.Text.Casing
import Graft.Text.CharSet
import Graft.Text.Letter
import Graft.Text.Quoted
import Graft.Text.Search
import Graft.Toml.Basic
import Graft.Toml.Moment
import Graft.Toml.Reader
import Graft.Toml.Scalar
import Graft.Value.Arithmetic
import Graft.Value.Basic
import Graft.Value.Json
import Graft.Value.Literal
import Graft.Value.Merge
import Graft.Value.Path
import Graft.Proofs.Registry.Invalid
import Graft.Proofs.Registry.Registration
