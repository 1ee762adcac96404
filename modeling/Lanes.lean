import Lanes.Bytes.Hex
import Lanes.Bytes.Varint
import Lanes.Bytes.Word
import Lanes.Fault
import Lanes.Binary64.Basic
import Lanes.Binary64.Shortest
import Lanes.Binary64.Text
import Lanes.Text.Utf8
import Lanes.Text.PrintTables
import Lanes.Text.Quote
import Lanes.Text.Letters
import Lanes.Text.CanonicalTables
import Lanes.Text.Canonical
import Lanes.Text.GraphemeTables
import Lanes.Text.Graphemes
import Lanes.Numeral.Refusal
import Lanes.Numeral.Integer
import Lanes.Numeral.Floating
import Lanes.Accumulator.Op
import Lanes.Accumulator.Basic
import Lanes.Accumulator.Registry
import Lanes.Accumulator.Codec
import Lanes.Doc
import Lanes.Manifest
import Lanes.Placement
import Lanes.Device
import Lanes.Metrics.Basic
import Lanes.Metrics.Board
import Lanes.Region.Policy
import Lanes.Region.Lane
import Lanes.Region.Run
import Lanes.Region.Shared
import Lanes.Pipeline.Table
import Lanes.Pipeline.Volume
import Lanes.Pipeline.Source
import Lanes.Pipeline.Transform
import Lanes.Pipeline.Topology
import Lanes.Text.Space
import Lanes.Config.Span
import Lanes.Config.Token
import Lanes.Config.NameTables
import Lanes.Config.Scan
import Lanes.Config.Number
import Lanes.Config.Ty
import Lanes.Config.Value
import Lanes.Config.Syntax
import Lanes.Config.Stream
import Lanes.Config.Literal
import Lanes.Config.Hint
import Lanes.Config.ParseExpr
import Lanes.Config.ParseBody
import Lanes.Config.Eval
import Lanes.Config.Decode
import Lanes.Pipeline.Load
import Lanes.Random.Cooked
import Lanes.Random.Source
import Lanes.Knapsack
import Lanes.Text.Columns
import Lanes.Cli.Flags
import Lanes.Cli.ProfileSyntax
import Lanes.Cli.Profile
import Lanes.Cli.Commands
import Lanes.Cli.Program
import Lanes.Scenario.Basic
import Lanes.Scenario.Accumulators
import Lanes.Scenario.Hosts
import Lanes.Scenario.Devices
import Lanes.Scenario.Metrics
import Lanes.Scenario.Regions
import Lanes.Scenario.Pipelines
import Lanes.Scenario.Configs
import Lanes.Scenario.Cli
import Lanes.Scenario.Request
import Lanes.Main
import Lanes.Proofs.KindNames
import Lanes.Proofs.Reduction
import Lanes.Proofs.Envelope
import Lanes.Proofs.RegionMerge
import Lanes.Proofs.TableMap
import Lanes.Proofs.UpdateOrder
import Lanes.Proofs.Interleaving
import Lanes.Proofs.Distribution
import Lanes.Proofs.SimulatedAccelerator
import Lanes.Proofs.HostPlacement
import Lanes.Proofs.RegionRefusal
import Lanes.Proofs.LaneWorld
import Lanes.Proofs.TopologyStages
import Lanes.Proofs.KindGrammar
import Lanes.Proofs.KindErrors
import Lanes.Proofs.CombineLaws
import Lanes.Proofs.TableFailure
import Lanes.Proofs.PlanBounds
import Lanes.Proofs.LineBoundary
import Lanes.Proofs.RecordCounts
import Lanes.Proofs.LoadValidation
import Lanes.Proofs.TupleReading
import Lanes.Proofs.ScopeLaws
import Lanes.Proofs.WalkSearch
import Lanes.Proofs.TransformTables
