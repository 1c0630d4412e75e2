import SpatialGrammar.CellType
import SpatialGrammar.CommandLine.Arguments
import SpatialGrammar.CommandLine.Basic
import SpatialGrammar.Conflict.Arrangement
import SpatialGrammar.Conflict.Block
import SpatialGrammar.Conflict.Graph
import SpatialGrammar.Conflict.IndexSet
import SpatialGrammar.Conflict.OwnerTable
import SpatialGrammar.Constraint.Basic
import SpatialGrammar.Constraint.Error
import SpatialGrammar.Constraint.Extent
import SpatialGrammar.Constraint.Formula
import SpatialGrammar.Constraint.Formula.Reader
import SpatialGrammar.Constraint.Formula.Token
import SpatialGrammar.Constraint.Kleene
import SpatialGrammar.Constraint.Placement
import SpatialGrammar.Constraint.Substitution
import SpatialGrammar.Constraint.Variable
import SpatialGrammar.Document.Mark
import SpatialGrammar.Document.Node
import SpatialGrammar.Document.Scalar
import SpatialGrammar.Document.Token
import SpatialGrammar.Document.Value
import SpatialGrammar.Grammar.Basic
import SpatialGrammar.Grammar.Definition
import SpatialGrammar.Grammar.Dependency
import SpatialGrammar.Grammar.Document
import SpatialGrammar.Grammar.Error
import SpatialGrammar.Main
import SpatialGrammar.Match
import SpatialGrammar.Number.Binary
import SpatialGrammar.Number.Decimal
import SpatialGrammar.Number.Fixed
import SpatialGrammar.Number.Score
import SpatialGrammar.Number.Shortest
import SpatialGrammar.Number.Word
import SpatialGrammar.Order.Distinct
import SpatialGrammar.Order.NameMap
import SpatialGrammar.Pattern
import SpatialGrammar.Plane.Box
import SpatialGrammar.Plane.Box.Distance
import SpatialGrammar.Plane.Interval
import SpatialGrammar.Plane.Interval.Notation
import SpatialGrammar.Plane.Region
import SpatialGrammar.Plane.Side
import SpatialGrammar.Plane.Workings
import SpatialGrammar.Recognition.Arbitration
import SpatialGrammar.Recognition.Areas
import SpatialGrammar.Recognition.Arrays
import SpatialGrammar.Recognition.Assembly
import SpatialGrammar.Recognition.Binding
import SpatialGrammar.Recognition.Cells
import SpatialGrammar.Recognition.Cluster
import SpatialGrammar.Recognition.Cluster.Workings
import SpatialGrammar.Recognition.Run
import SpatialGrammar.Recognition.Scene
import SpatialGrammar.Recognition.Session
import SpatialGrammar.Recognition.Structures
import SpatialGrammar.Recognition.Summary
import SpatialGrammar.Regex.Basic
import SpatialGrammar.Regex.Footprint
import SpatialGrammar.Regex.Reader
import SpatialGrammar.Regex.Reader.Basic
import SpatialGrammar.Regex.Reader.Class
import SpatialGrammar.Regex.Reader.Escape
import SpatialGrammar.Regex.Search
import SpatialGrammar.Registry
import SpatialGrammar.Report.Basic
import SpatialGrammar.Report.Duration
import SpatialGrammar.Report.Palette
import SpatialGrammar.Sheet
import SpatialGrammar.Text.Blank
import SpatialGrammar.Text.Case
import SpatialGrammar.Text.CharSet
import SpatialGrammar.Text.Digit
import SpatialGrammar.Text.Encoding
import SpatialGrammar.Text.Property
import SpatialGrammar.Text.Property.Age
import SpatialGrammar.Text.Property.Binary
import SpatialGrammar.Text.Property.Break
import SpatialGrammar.Text.Property.Category
import SpatialGrammar.Text.Property.Script
import SpatialGrammar.Text.Quoted
import SpatialGrammar.Text.Repertoire
import SpatialGrammar.Text.Word
import SpatialGrammar.Proofs.Conflict.Growth
import SpatialGrammar.Proofs.Conflict.Retention
import SpatialGrammar.Proofs.Conflict.Spots
import SpatialGrammar.Proofs.Conflict.Enumeration
import SpatialGrammar.Proofs.Conflict.Arrangements
import SpatialGrammar.Proofs.Recognition.Arbitration
import SpatialGrammar.Proofs.Constraint.Locality
import SpatialGrammar.Proofs.Outcome
import SpatialGrammar.Proofs.Recognition.Binding
import SpatialGrammar.Proofs.Order.NameMap
import SpatialGrammar.Proofs.Order.Distinct
import SpatialGrammar.Proofs.Grammar.Dependency
import SpatialGrammar.Proofs.Grammar.Relations
import SpatialGrammar.Proofs.Grammar.Acceptance
import SpatialGrammar.Proofs.Grammar.Build
import SpatialGrammar.Proofs.Recognition.Assembly
import SpatialGrammar.Proofs.Recognition.Structures
import SpatialGrammar.Proofs.Recognition.Areas
import SpatialGrammar.Proofs.Recognition.Run
import SpatialGrammar.Proofs.Sheet
import SpatialGrammar.Proofs.Registry
import SpatialGrammar.Proofs.Recognition.Schedule
import SpatialGrammar.Proofs.Recognition.Disjointness
import SpatialGrammar.Proofs.Recognition.Cluster
import SpatialGrammar.Proofs.Recognition.Arrays
import SpatialGrammar.Proofs.Recognition.Sharing
import SpatialGrammar.Proofs.Plane.Interval
import SpatialGrammar.Proofs.Plane.Region
import SpatialGrammar.Proofs.Constraint.Evaluation
import SpatialGrammar.Proofs.Constraint.Placement
import SpatialGrammar.Proofs.Constraint.Namespace
import SpatialGrammar.Proofs.Overflow
import SpatialGrammar.Proofs.Recognition.Evaluability
import SpatialGrammar.Proofs.Recognition.Scoping
import SpatialGrammar.Proofs.Recognition.Exhaustion
import SpatialGrammar.Proofs.Recognition.Narrowing
import SpatialGrammar.Proofs.Recognition.Limits
import SpatialGrammar.Proofs.Formula.Syntax
import SpatialGrammar.Proofs.Formula.Soundness
import SpatialGrammar.Proofs.Formula.Completeness
import SpatialGrammar.Proofs.Formula.Regrouping
import SpatialGrammar.Proofs.Formula.Scanning
import SpatialGrammar.Proofs.Plane.Spelling
import SpatialGrammar.Proofs.Plane.Notation
import SpatialGrammar.Proofs.Text
import SpatialGrammar.Proofs.Formula.Legibility
import SpatialGrammar.Proofs.Formula.Writing
import SpatialGrammar.Proofs.Constraint.Renaming
import SpatialGrammar.Proofs.Plane.Combination
import SpatialGrammar.Proofs.Recognition.Listing
import SpatialGrammar.Proofs.Sheet.Points
import SpatialGrammar.Proofs.Sheet.Changes
import SpatialGrammar.Proofs.Recognition.Foresight
import SpatialGrammar.Proofs.Recognition.Economy
import SpatialGrammar.Proofs.Recognition.Cluster.Connection
import SpatialGrammar.Proofs.Recognition.Cluster.Division
import SpatialGrammar.Proofs.Recognition.Cluster.Lines
import SpatialGrammar.Proofs.Recognition.Slices
import SpatialGrammar.Proofs.Order.Cut
import SpatialGrammar.Proofs.Registry.Corners
import SpatialGrammar.Proofs.Constraint.Binding
import SpatialGrammar.Proofs.Constraint.Composition
import SpatialGrammar.Proofs.Recognition.Trimming
import SpatialGrammar.Proofs.Plane.Coverage
import SpatialGrammar.Proofs.Plane.Overlap
import SpatialGrammar.Proofs.Plane.Distance
import SpatialGrammar.Proofs.Plane.Arithmetic
import SpatialGrammar.Proofs.Constraint.Adjacency
import SpatialGrammar.Proofs.Constraint.Sides
import SpatialGrammar.Proofs.Recognition.Members
import SpatialGrammar.Proofs.Match.Precision
import SpatialGrammar.Proofs.Conflict.Block
import SpatialGrammar.Proofs.Conflict.Recipe
import SpatialGrammar.Proofs.Conflict.Maximality
import SpatialGrammar.Proofs.Conflict.OwnerTable
import SpatialGrammar.Proofs.Conflict.Links
import SpatialGrammar.Proofs.Conflict.Agreement
import SpatialGrammar.Proofs.Conflict.Admission
import SpatialGrammar.Proofs.CommandLine.Spelling
import SpatialGrammar.Proofs.Grammar.Lifting
