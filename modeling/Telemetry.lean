import Telemetry.Action
import Telemetry.Catalog.Counter
import Telemetry.Catalog.Error
import Telemetry.Catalog.Reading
import Telemetry.Collector
import Telemetry.Csv
import Telemetry.Device.Client
import Telemetry.Device.Entity
import Telemetry.Device.Error
import Telemetry.Device.Field
import Telemetry.Device.Logged
import Telemetry.Device.Manager
import Telemetry.Device.Reading
import Telemetry.Device.Scripted
import Telemetry.Device.Watch
import Telemetry.Double.Basic
import Telemetry.Double.Fixed
import Telemetry.Double.Reading
import Telemetry.Double.Shortest
import Telemetry.Exporter.Lifetime
import Telemetry.Exporter.Restart
import Telemetry.Exporter.Serving
import Telemetry.Exporter.Start
import Telemetry.Exposition
import Telemetry.Json.Basic
import Telemetry.Json.Reading
import Telemetry.Json.Writing
import Telemetry.Logging.Filter
import Telemetry.Logging.Level
import Telemetry.Logging.Pattern
import Telemetry.Main
import Telemetry.Metric
import Telemetry.Numeral
import Telemetry.Pipeline.Basic
import Telemetry.Pipeline.Channel
import Telemetry.Pipeline.Delivery
import Telemetry.Pipeline.Run
import Telemetry.Pipeline.Setup
import Telemetry.Pipeline.State
import Telemetry.Pipeline.Transform
import Telemetry.Pods.Attribution
import Telemetry.Pods.Basic
import Telemetry.Pods.IdType
import Telemetry.Pods.Wire
import Telemetry.Report
import Telemetry.Selection.Basic
import Telemetry.Selection.Reading
import Telemetry.Server.Address
import Telemetry.Server.Error
import Telemetry.Server.Router
import Telemetry.Server.Store
import Telemetry.Settings.Arguments
import Telemetry.Settings.Basic
import Telemetry.Settings.File
import Telemetry.Settings.Loading
import Telemetry.Settings.Value
import Telemetry.Signal
import Telemetry.Simulation.Basic
import Telemetry.Simulation.Json
import Telemetry.Simulation.Manager
import Telemetry.Simulation.Reading
import Telemetry.Simulation.Yaml
import Telemetry.SortedMap
import Telemetry.Text.Alphanumeric
import Telemetry.Text.Blank
import Telemetry.Text.Duration
import Telemetry.Text.LowerCase
import Telemetry.Text.Quoted
import Telemetry.Text.Split
import Telemetry.Text.Utf8
import Telemetry.Text.Visible
import Telemetry.Topology.Basic
import Telemetry.Topology.Build
import Telemetry.Topology.Selected
import Telemetry.Wire.Basic
import Telemetry.Wire.Message
import Telemetry.Yaml.Dialect
import Telemetry.Yaml.Node
import Telemetry.Yaml.Token
import Telemetry.Proofs.Exposition.Grouping
import Telemetry.Proofs.Exposition.Decoding
import Telemetry.Proofs.Topology.Linking
import Telemetry.Proofs.Ending
import Telemetry.Proofs.Topology.Building
import Telemetry.Proofs.Topology.Integrity
import Telemetry.Proofs.Topology.Outcome
import Telemetry.Proofs.Numeral
import Telemetry.Proofs.Selection.Items
import Telemetry.Proofs.Selection.Grammar
import Telemetry.Proofs.Json
import Telemetry.Proofs.Selection.RoundTrip
import Telemetry.Proofs.Topology.Naming
import Telemetry.Proofs.Topology.Selecting
import Telemetry.Proofs.Collector.Life
import Telemetry.Proofs.Pipeline.Accounting
import Telemetry.Proofs.Exporter.Scraping
import Telemetry.Proofs.Simulation.Groups
import Telemetry.Proofs.Device.Handles
import Telemetry.Proofs.Pipeline.Lifecycle
import Telemetry.Proofs.Alike
import Telemetry.Proofs.Pipeline.Failing
import Telemetry.Proofs.Collector.Pass
import Telemetry.Proofs.Catalog.Fields
import Telemetry.Proofs.Simulation.Places
import Telemetry.Proofs.Simulation.Telling
import Telemetry.Proofs.Simulation.Serving
import Telemetry.Proofs.Simulation.Mirroring
import Telemetry.Proofs.Collector.Rows
import Telemetry.Proofs.SortedMap
import Telemetry.Proofs.Pods.Labelling
import Telemetry.Proofs.Pods.Registering
import Telemetry.Proofs.Pods.Holding
import Telemetry.Proofs.Exposition.Series
import Telemetry.Proofs.Exposition.Lines
import Telemetry.Proofs.Collector.Identity
import Telemetry.Proofs.Csv
import Telemetry.Proofs.Catalog.Rows
import Telemetry.Proofs.Catalog.Comments
import Telemetry.Proofs.Catalog.RoundTrip
import Telemetry.Proofs.Wire
import Telemetry.Proofs.Pods.Listing
import Telemetry.Proofs.Settings.Layers
import Telemetry.Proofs.Settings.Files
import Telemetry.Proofs.Settings.Loading
import Telemetry.Proofs.Exporter.Restarting
import Telemetry.Proofs.Simulation.Numbering
import Telemetry.Proofs.Topology.Reporting
import Telemetry.Proofs.Topology.Relabelling
import Telemetry.Proofs.Exposition.Withholding
import Telemetry.Proofs.Simulation.Locating
import Telemetry.Proofs.Simulation.Silencing
import Telemetry.Proofs.Pods.Framing
import Telemetry.Proofs.Csv.Spelling
import Telemetry.Proofs.Csv.Positions
import Telemetry.Proofs.Catalog.Bytes
import Telemetry.Proofs.Catalog.Faults
import Telemetry.Proofs.Catalog.Lines
import Telemetry.Proofs.Simulation.Batches
import Telemetry.Proofs.Simulation.Indexing
import Telemetry.Proofs.Simulation.RoundTrip
import Telemetry.Proofs.Collector.Sentinels
