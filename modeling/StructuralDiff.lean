import StructuralDiff.Analysis
import StructuralDiff.Bound
import StructuralDiff.Cache
import StructuralDiff.Checkout
import StructuralDiff.CommandLine.Arguments
import StructuralDiff.CommandLine.Help
import StructuralDiff.CommandLine.Report
import StructuralDiff.CommandLine.Run
import StructuralDiff.CommandLine.Trees
import StructuralDiff.Config
import StructuralDiff.Delta.Basic
import StructuralDiff.Delta.Key
import StructuralDiff.Delta.Pairing
import StructuralDiff.Diff.Record
import StructuralDiff.Diff.Registry
import StructuralDiff.Diff.Summary
import StructuralDiff.Digest
import StructuralDiff.Disk
import StructuralDiff.Environment
import StructuralDiff.Extract.Python
import StructuralDiff.Extract.Script
import StructuralDiff.Flow.Basic
import StructuralDiff.Flow.Skeleton
import StructuralDiff.Fragment
import StructuralDiff.Graph.Basic
import StructuralDiff.Graph.Codec
import StructuralDiff.Graph.Index
import StructuralDiff.Graph.Kind
import StructuralDiff.Json.Basic
import StructuralDiff.Json.Reader
import StructuralDiff.Json.Record
import StructuralDiff.Json.Token
import StructuralDiff.Main
import StructuralDiff.Metadata
import StructuralDiff.Moment
import StructuralDiff.Neighborhood.Derivation
import StructuralDiff.Neighborhood.Layout
import StructuralDiff.Neighborhood.MatchKey
import StructuralDiff.Neighborhood.Search
import StructuralDiff.Neighborhood.Strategy
import StructuralDiff.Outline
import StructuralDiff.Patch
import StructuralDiff.Path
import StructuralDiff.Proofs.Analysis.Clash
import StructuralDiff.Proofs.Analysis.Composition
import StructuralDiff.Proofs.Analysis.Merge
import StructuralDiff.Proofs.Analysis.Reformatting
import StructuralDiff.Proofs.Analysis.Untouched
import StructuralDiff.Proofs.Cache
import StructuralDiff.Proofs.Checkout.Content
import StructuralDiff.Proofs.Checkout.Walk
import StructuralDiff.Proofs.Delta.Correspondence
import StructuralDiff.Proofs.Delta.EdgeCount
import StructuralDiff.Proofs.Delta.Emptiness
import StructuralDiff.Proofs.Delta.Enumeration
import StructuralDiff.Proofs.Delta.FileScore
import StructuralDiff.Proofs.Delta.Greedy
import StructuralDiff.Proofs.Delta.Grouping
import StructuralDiff.Proofs.Delta.Identity
import StructuralDiff.Proofs.Delta.Outcome
import StructuralDiff.Proofs.Delta.Pairing
import StructuralDiff.Proofs.Delta.Reversal
import StructuralDiff.Proofs.Delta.Revision
import StructuralDiff.Proofs.Delta.Risk
import StructuralDiff.Proofs.Diff.Accounting
import StructuralDiff.Proofs.Diff.Gathering
import StructuralDiff.Proofs.Diff.Kept
import StructuralDiff.Proofs.Diff.Lookup
import StructuralDiff.Proofs.Diff.Registry
import StructuralDiff.Proofs.Diff.Revision
import StructuralDiff.Proofs.Diff.Summary
import StructuralDiff.Proofs.Diff.Transparency
import StructuralDiff.Proofs.Digest
import StructuralDiff.Proofs.Disk
import StructuralDiff.Proofs.Extract.Callable
import StructuralDiff.Proofs.Extract.Exit
import StructuralDiff.Proofs.Extract.Grammar
import StructuralDiff.Proofs.Extract.Lowering
import StructuralDiff.Proofs.Extract.Python
import StructuralDiff.Proofs.Extract.Regular
import StructuralDiff.Proofs.Extract.Script
import StructuralDiff.Proofs.Flow.Constant
import StructuralDiff.Proofs.Flow.FallThrough
import StructuralDiff.Proofs.Flow.Guarded
import StructuralDiff.Proofs.Flow.Liveness
import StructuralDiff.Proofs.Flow.Shape
import StructuralDiff.Proofs.Flow.Skeleton
import StructuralDiff.Proofs.Fragment.Drawing
import StructuralDiff.Proofs.Fragment.Exit
import StructuralDiff.Proofs.Fragment.FileNode
import StructuralDiff.Proofs.Fragment.Guarded
import StructuralDiff.Proofs.Fragment.Likeness
import StructuralDiff.Proofs.Fragment.Reachability
import StructuralDiff.Proofs.Fragment.Simulation
import StructuralDiff.Proofs.Fragment.Sound
import StructuralDiff.Proofs.Graph.Ancestry
import StructuralDiff.Proofs.Graph.Codec
import StructuralDiff.Proofs.Graph.Descent
import StructuralDiff.Proofs.Graph.Identifier
import StructuralDiff.Proofs.Graph.Revision
import StructuralDiff.Proofs.Graph.Validity
import StructuralDiff.Proofs.Json.Compact
import StructuralDiff.Proofs.Json.Reader
import StructuralDiff.Proofs.Json.Token
import StructuralDiff.Proofs.Name
import StructuralDiff.Proofs.Neighborhood.ContentKey
import StructuralDiff.Proofs.Neighborhood.Derivation
import StructuralDiff.Proofs.Neighborhood.Layout
import StructuralDiff.Proofs.Neighborhood.MatchKey
import StructuralDiff.Proofs.Neighborhood.Registration
import StructuralDiff.Proofs.Neighborhood.Search
import StructuralDiff.Proofs.Neighborhood.Strategy
import StructuralDiff.Proofs.Outline
import StructuralDiff.Proofs.Patch.Header
import StructuralDiff.Proofs.Patch.Rendering
import StructuralDiff.Proofs.Path
import StructuralDiff.Proofs.Ranking
import StructuralDiff.Proofs.Repetition
import StructuralDiff.Proofs.Source.Bare
import StructuralDiff.Proofs.Source.Callee
import StructuralDiff.Proofs.Source.Edit
import StructuralDiff.Proofs.Source.Error
import StructuralDiff.Proofs.Source.Exit
import StructuralDiff.Proofs.Source.Stream
import StructuralDiff.Proofs.Standing
import StructuralDiff.Proofs.Store.Agreement
import StructuralDiff.Proofs.Store.Document
import StructuralDiff.Proofs.Store.File
import StructuralDiff.Proofs.Store.History
import StructuralDiff.Proofs.Store.Layout
import StructuralDiff.Proofs.Store.Room
import StructuralDiff.Proofs.Store.RoundTrip
import StructuralDiff.Proofs.Table
import StructuralDiff.Proofs.Text.Line
import StructuralDiff.Proofs.Text.Number
import StructuralDiff.Proofs.Text.Utf8
import StructuralDiff.Proofs.Traversal
import StructuralDiff.Proofs.Traversal.Distance
import StructuralDiff.Proofs.Traversal.Worklist
import StructuralDiff.Proofs.View.Changes
import StructuralDiff.Proofs.View.WellFormed
import StructuralDiff.Proofs.Worker
import StructuralDiff.Risk
import StructuralDiff.Signature
import StructuralDiff.Source.Codec
import StructuralDiff.Source.Token
import StructuralDiff.Source.Tree
import StructuralDiff.Store.Basic
import StructuralDiff.Store.Document
import StructuralDiff.Store.File
import StructuralDiff.Table
import StructuralDiff.Text.Blank
import StructuralDiff.Text.Case
import StructuralDiff.Text.Digit
import StructuralDiff.Text.Line
import StructuralDiff.Text.Order
import StructuralDiff.Text.Quoted
import StructuralDiff.Text.Utf8
import StructuralDiff.Toml.Basic
import StructuralDiff.Toml.Reader
import StructuralDiff.Toml.Scalar
import StructuralDiff.Traversal
import StructuralDiff.View.Basic
import StructuralDiff.View.Changes
import StructuralDiff.View.Codec
import StructuralDiff.View.Project
import StructuralDiff.Worker
