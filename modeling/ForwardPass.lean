import ForwardPass.Activation
import ForwardPass.Buffer
import ForwardPass.CommandLine
import ForwardPass.CommandLine.Arguments
import ForwardPass.CommandLine.Host
import ForwardPass.CommandLine.Machine
import ForwardPass.Convolution.Plane
import ForwardPass.Convolution.Planes
import ForwardPass.Convolution.Schedule
import ForwardPass.Convolution.Throughput
import ForwardPass.Dataflow.Graph
import ForwardPass.Dataflow.Lowering
import ForwardPass.Dataflow.Order
import ForwardPass.Dataflow.Store
import ForwardPass.Description
import ForwardPass.Description.Reader
import ForwardPass.DoubleBuffer
import ForwardPass.Failure
import ForwardPass.Kernel.Border
import ForwardPass.Kernel.Dense
import ForwardPass.Kernel.MaxPool
import ForwardPass.Layer
import ForwardPass.Layer.Execution
import ForwardPass.Ledger
import ForwardPass.Main
import ForwardPass.Network
import ForwardPass.Network.Pass
import ForwardPass.Proofs.Buffer
import ForwardPass.Proofs.Convolution.CrossCorrelation
import ForwardPass.Proofs.Convolution.Pixel
import ForwardPass.Proofs.Convolution.Plane
import ForwardPass.Proofs.Convolution.Planes
import ForwardPass.Proofs.Convolution.Schedule
import ForwardPass.Proofs.Dataflow.Lowering
import ForwardPass.Proofs.Dataflow.Operator
import ForwardPass.Proofs.Dataflow.Order
import ForwardPass.Proofs.Description
import ForwardPass.Proofs.Exact
import ForwardPass.Proofs.Kernel.Border
import ForwardPass.Proofs.Kernel.Dense
import ForwardPass.Proofs.Kernel.MaxPool
import ForwardPass.Proofs.Layer.Construction
import ForwardPass.Proofs.Layer.Execution
import ForwardPass.Proofs.Layer.Meaning
import ForwardPass.Proofs.Layer.Pooling
import ForwardPass.Proofs.Layer.Support
import ForwardPass.Proofs.Layout
import ForwardPass.Proofs.Ledger
import ForwardPass.Proofs.Network.Composition
import ForwardPass.Proofs.Network.Pass
import ForwardPass.Proofs.Network.Stages
import ForwardPass.Proofs.Register
import ForwardPass.Proofs.Results
import ForwardPass.Register.Lanes
import ForwardPass.Register.Pipes
import ForwardPass.Scalar
import ForwardPass.Session
import ForwardPass.Session.Record
import ForwardPass.Session.Report
import ForwardPass.Session.StepCommand
import ForwardPass.Session.TypedLine
import ForwardPass.Settings
import ForwardPass.Settings.Environment
import ForwardPass.Settings.Format
import ForwardPass.Settings.Format.Ini
import ForwardPass.Settings.Format.Json
import ForwardPass.Settings.Format.Json5
import ForwardPass.Settings.Format.Ron
import ForwardPass.Settings.Format.Toml
import ForwardPass.Settings.Format.Yaml
import ForwardPass.Settings.Path
import ForwardPass.Settings.Tree
import ForwardPass.Shape
import ForwardPass.Tensor
import ForwardPass.Text.Blank
import ForwardPass.Text.CaseTable
import ForwardPass.Text.Cluster
import ForwardPass.Text.ClusterTable
import ForwardPass.Text.CodePoint
import ForwardPass.Text.CodeRange
import ForwardPass.Text.Decimal
import ForwardPass.Text.LowerCase
import ForwardPass.Text.NameTable
import ForwardPass.Text.Number
import ForwardPass.Text.PrintTable
import ForwardPass.Text.Quoted
import ForwardPass.Text.Scan
import ForwardPass.Toml.Document
import ForwardPass.Toml.Lexeme
import ForwardPass.Toml.Tree
import ForwardPass.Toml.Value
import ForwardPass.Yaml.Cursor
import ForwardPass.Yaml.Document
import ForwardPass.Yaml.Layout
import ForwardPass.Yaml.Node
import ForwardPass.Yaml.Scalar
import ForwardPass.Yaml.Tokens
import ForwardPass.Proofs.Convolution.Refusal
import ForwardPass.Proofs.Convolution.Output
import ForwardPass.Proofs.Dataflow.Confluence
import ForwardPass.Proofs.Dataflow.Turns
import ForwardPass.Proofs.Layer.InPlace
import ForwardPass.Proofs.Layer.Separation
import ForwardPass.Proofs.Network.Step
import ForwardPass.Proofs.Network.History
import ForwardPass.Proofs.Network.Independence
import ForwardPass.Proofs.Convolution.Interrupted
import ForwardPass.Proofs.Convolution.Locality
import ForwardPass.Proofs.Convolution.Validation
import ForwardPass.Proofs.Network.Pads
import ForwardPass.Proofs.SinglePrecision
import ForwardPass.Proofs.Network.Accounts
import ForwardPass.Proofs.Description.Acceptance
import ForwardPass.Proofs.Text.Quoted
import ForwardPass.Proofs.Session.History
import ForwardPass.Proofs.Session.Stepping
import ForwardPass.Proofs.Session.Trace
import ForwardPass.Proofs.Ledger.History
import ForwardPass.Proofs.Session.Report
import ForwardPass.Proofs.Session.Outcome
import ForwardPass.Proofs.CommandLine.Reporting
import ForwardPass.Proofs.Tensor
import ForwardPass.Proofs.Tensor.Edits
import ForwardPass.Proofs.Session.StepCommand
import ForwardPass.Proofs.Settings
import ForwardPass.Proofs.Register.Accumulation
import ForwardPass.Proofs.Register.Shifts
import ForwardPass.Proofs.Convolution.Tiling
import ForwardPass.Proofs.Layout.Numbering
