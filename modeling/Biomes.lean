import Biomes.Axis
import Biomes.Biome
import Biomes.Branch
import Biomes.Catalog.Basic
import Biomes.Catalog.Cell
import Biomes.Colour
import Biomes.CommandLine.Help
import Biomes.CommandLine.Option
import Biomes.CommandLine.Reading
import Biomes.Compile.Classifier
import Biomes.Compile.Draft
import Biomes.Compile.Finding
import Biomes.Compile.Search
import Biomes.Compile.Table
import Biomes.Console
import Biomes.Coverage
import Biomes.Decimal.Float
import Biomes.Decimal.Layout
import Biomes.Decimal.Power
import Biomes.Decimal.Rounded
import Biomes.Decimal.Shortest
import Biomes.DecisionTree
import Biomes.Graph.Basic
import Biomes.Graph.Outlet
import Biomes.Graph.Path
import Biomes.Graph.Wiring
import Biomes.Grid.BiomeCube
import Biomes.Grid.BiomeMap
import Biomes.Grid.Pass
import Biomes.Grid.Region
import Biomes.Grid.WarningBudget
import Biomes.Interval
import Biomes.LogFilter
import Biomes.Main
import Biomes.Noise.Fractal
import Biomes.Noise.Permutation
import Biomes.Noise.Simplex
import Biomes.Notation.Attribute
import Biomes.Notation.Blank
import Biomes.Notation.Number
import Biomes.Notation.Quoted
import Biomes.Notation.Range
import Biomes.Notation.Record
import Biomes.Notation.Value
import Biomes.Pattern
import Biomes.Program
import Biomes.Proofs.Catalog.Links
import Biomes.Proofs.Catalog.Overlap
import Biomes.Proofs.Catalog.Spans
import Biomes.Proofs.Compile.Account
import Biomes.Proofs.Compile.Additions
import Biomes.Proofs.Compile.Arms
import Biomes.Proofs.Compile.Bare
import Biomes.Proofs.Compile.Bypass
import Biomes.Proofs.Compile.Coverage
import Biomes.Proofs.Compile.Depth
import Biomes.Proofs.Compile.Dump
import Biomes.Proofs.Compile.Growth
import Biomes.Proofs.Compile.Leaves
import Biomes.Proofs.Compile.Meaning
import Biomes.Proofs.Compile.Missing
import Biomes.Proofs.Compile.Names
import Biomes.Proofs.Compile.Numbering
import Biomes.Proofs.Compile.Prune
import Biomes.Proofs.Compile.Rebuild
import Biomes.Proofs.Compile.Session
import Biomes.Proofs.Compile.Tiling
import Biomes.Proofs.Compile.Totals
import Biomes.Proofs.Compile.Writes
import Biomes.Proofs.Decimal.Packing
import Biomes.Proofs.Decimal.Reading
import Biomes.Proofs.Decimal.Rounding
import Biomes.Proofs.Decimal.Shortest
import Biomes.Proofs.DecisionTree.Dump
import Biomes.Proofs.DecisionTree.FirstMatch
import Biomes.Proofs.DecisionTree.Line
import Biomes.Proofs.Graph.Alike
import Biomes.Proofs.Graph.Connections
import Biomes.Proofs.Graph.Evaluation
import Biomes.Proofs.Graph.Prune
import Biomes.Proofs.Graph.Reach
import Biomes.Proofs.Graph.Unfolding
import Biomes.Proofs.Graph.Visits
import Biomes.Proofs.Grid.BiomeCube
import Biomes.Proofs.Grid.BiomeMap
import Biomes.Proofs.Grid.History
import Biomes.Proofs.Grid.Outcome
import Biomes.Proofs.Grid.Pass
import Biomes.Proofs.Grid.Volume
import Biomes.Proofs.Grid.Warnings
import Biomes.Proofs.Notation.Blank
import Biomes.Proofs.Notation.Number
import Biomes.Proofs.Notation.Quantity
import Biomes.Proofs.Notation.Quoted
import Biomes.Proofs.Notation.Record
import Biomes.Proofs.Report.Census
import Biomes.Proofs.Sample.Landscape
import Biomes.Proofs.Sample.Seeds
import Biomes.Proofs.Sample.WaterLevel
import Biomes.Proofs.Sample.World
import Biomes.Proofs.Settings.Check
import Biomes.Proofs.Settings.Override
import Biomes.Proofs.Settings.Store
import Biomes.Proofs.Settings.Text
import Biomes.Proofs.Single.Difference
import Biomes.Proofs.Single.Order
import Biomes.Proofs.Single.Product
import Biomes.Quantity
import Biomes.Record
import Biomes.Report.Basic
import Biomes.Report.Census
import Biomes.Report.Compilation
import Biomes.Report.Full
import Biomes.Report.Ranges
import Biomes.Sample.Landscape
import Biomes.Sample.World
import Biomes.Settings.Basic
import Biomes.Settings.Store
import Biomes.Settings.Text
import Biomes.Single
import Biomes.Text.Alphanumeric
import Biomes.Text.Blank
import Biomes.Text.CharSet
import Biomes.Text.Identifier
import Biomes.Text.Plain
